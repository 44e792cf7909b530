import Comboard.LoraSteps
import Mathlib.Data.Nat.ModEq

/-!
# The periodic deadline and its slots

`next_tx_at` moves by whole slots only. Each of them was selected or is counted as missed.
-/

namespace Comboard.Deadline

open Lib LoraTx LoraSteps

/-! ## What is counted -/

def missed (w : LoraTx) : Nat := w.shared.lora_periodic_missed_slot_count

/-- `LORA_PERIODIC_MISSED_SLOT_COUNT` never got to its limit. -/
def Unsaturated (w : LoraTx) : Prop := missed w < 0xffffffff

/-- The regular slot was selected, not a retry. -/
def regularSelected : LoraPoint → LoraPoint → Bool
  | .Select it, .Snapshot _ false => !it.retry_selected
  | _, _ => false

def isPreempted : LoraReport → Bool
  | .preempted _ _ => true
  | _ => false

/-- The packet of a regular slot was preempted. -/
def regularPreempted (point : LoraPoint) (reports : List LoraReport) : Bool :=
  match point with
  | .Prepare _ _ regular _ => regular && reports.any isPreempted
  | _ => false

/-- How many regular slots were selected, and how many of them were preempted. -/
structure Slots where
  selected : Nat
  preempted : Nat
  deriving DecidableEq

namespace Slots

def used (slots : Slots) : Nat := slots.selected - slots.preempted

def next (slots : Slots) (w w' : LoraTx) (reports : List LoraReport) : Slots where
  selected := slots.selected + (regularSelected w.point w'.point).toNat
  preempted := slots.preempted + (regularPreempted w.point reports).toNat

end Slots

/-! ## Overdue slots -/

theorem checked_add_some {a b c : Nat} (h : checked_add a b = some c) : c = a + b := by
  unfold checked_add at h
  split at h <;> simp_all

theorem checked_mul_some {a b c : Nat} (h : checked_mul a b = some c) : c = a * b := by
  unfold checked_mul at h
  split at h <;> simp_all

/-- The next deadline is a whole number of intervals later, and in the future. -/
theorem advance_deadline_some {deadline now interval : Nat} {advance : DeadlineAdvance}
    (h : advance_deadline deadline now interval = some advance) :
    0 < interval ∧ now < advance.next_deadline_us ∧ ∃ skipped,
      advance.next_deadline_us = deadline + interval * skipped ∧
        advance.missed_slots = min skipped 0xffffffff := by
  unfold advance_deadline at h
  split at h <;> rename_i hzero
  · simp at h
  · refine ⟨by omega, ?_⟩
    split at h <;> rename_i hfuture
    · obtain rfl := Option.some.inj h
      exact ⟨hfuture, 0, by simp, by simp⟩
    · simp only [Option.bind_eq_bind, Option.bind_eq_some_iff] at h
      obtain ⟨skipped, hskipped, advance_us, hadvance, next, hnext, h⟩ := h
      split at h <;> rename_i hpast
      · simp at h
      · obtain rfl := Option.some.inj h
        refine ⟨Nat.not_le.mp hpast, skipped, ?_, ?_⟩
        · rw [checked_add_some hnext, checked_mul_some hadvance, Nat.mul_comm]
        · dsimp only
          split <;> omega

/-- Overdue slots are behind the deadline, and they are counted. -/
structure Skips (w w' : LoraTx) (now : Nat) : Prop where
  valid : w.loop.periodic_deadline_valid = true
  future : now < w'.loop.next_tx_at
  interval : 0 < w'.loop.interval
  whole : ∃ slots, w'.loop.next_tx_at = w.loop.next_tx_at + w'.loop.interval * slots
  counted : Unsaturated w' → missed w ≤ missed w' ∧
    w'.loop.next_tx_at = w.loop.next_tx_at + w'.loop.interval * (missed w' - missed w)

theorem skip_overdue_skips {w : LoraTx} {now : Nat} {skipped : LoraTx × Nat}
    (h : w.skip_overdue_periodic_deadlines now = skipped)
    (hvalid : skipped.1.loop.periodic_deadline_valid = true) : Skips w skipped.1 now := by
  subst h
  unfold skip_overdue_periodic_deadlines at hvalid ⊢
  split at hvalid <;> rename_i hbefore
  · rw [if_pos hbefore]
    split at hvalid <;> rename_i hadvance
    · obtain ⟨hinterval, hfuture, slots, hnext, hmissed⟩ := advance_deadline_some hadvance
      refine ⟨hbefore, hfuture, hinterval, ⟨slots, hnext⟩, fun hunsaturated => ?_⟩
      simp only [Unsaturated, missed, add_periodic_missed_slots, hmissed] at hunsaturated ⊢
      have hcount : min (w.shared.lora_periodic_missed_slot_count + min slots 0xffffffff) 0xffffffff =
          w.shared.lora_periodic_missed_slot_count + slots := by omega
      rw [hcount]
      exact ⟨by omega, by rw [hnext, Nat.add_sub_cancel_left]⟩
    · simp at hvalid
  · exact absurd hvalid hbefore

/-! ## What a step does to the deadline -/

/-- The reading an attempt uses to skip overdue slots. -/
def skippedAt : Action → Option Nat
  | .prepare_failed _ skipped_at | .transmitted _ _ skipped_at => some skipped_at
  | _ => none

/-- An attempt or a failed build. -/
def slotsSkipped : LoraReport → Bool
  | .attempted _ _ _ _ | .periodic_build_failed => true
  | _ => false

/-- A step keeps the deadline, takes a slot, gives one up, or skips overdue ones. -/
inductive SlotStep (w w' : LoraTx) (a : Action) (reports : List LoraReport) : Prop where
  | keeps (hselected : regularSelected w.point w'.point = false)
      (hpreempted : regularPreempted w.point reports = false) (hreading : skippedAt a = none)
      (hvalid : w'.loop.periodic_deadline_valid = w.loop.periodic_deadline_valid)
      (hnext : w'.loop.next_tx_at = w.loop.next_tx_at)
      (hmissed : Unsaturated w' → missed w' = missed w)
  | takes (hselected : regularSelected w.point w'.point = true)
      (hpreempted : regularPreempted w.point reports = false) (hreading : skippedAt a = none)
      (hnext : w'.loop.periodic_deadline_valid = true → w.loop.periodic_deadline_valid = true ∧
        0 < w'.loop.interval ∧ w'.loop.next_tx_at = w.loop.next_tx_at + w'.loop.interval)
      (hmissed : missed w' = missed w)
  | gives_up (hselected : regularSelected w.point w'.point = false)
      (hpreempted : regularPreempted w.point reports = true) (hreading : skippedAt a = none)
      (hvalid : w'.loop.periodic_deadline_valid = w.loop.periodic_deadline_valid)
      (hnext : w'.loop.next_tx_at = w.loop.next_tx_at)
      (hmissed : Unsaturated w' → missed w' = missed w + 1)
  | skips {now : Nat} (hselected : regularSelected w.point w'.point = false)
      (hpreempted : regularPreempted w.point reports = false)
      (hreading : ∀ skipped_at, skippedAt a = some skipped_at → now = skipped_at)
      (hreports : ∃ r ∈ reports, slotsSkipped r = true)
      (hskips : w'.loop.periodic_deadline_valid = true → Skips w w' now)

theorem periodic_interval_pos (recovery_active cycle_active : Bool) :
    0 < from_millis (periodic_interval_ms recovery_active cycle_active) := by
  cases recovery_active <;> cases cycle_active <;> decide

theorem select_periodic_slot {w : LoraTx} {it : Iteration} {a : Action}
    {reports : List LoraReport} (hpoint : w.point = .Select it) (hreading : skippedAt a = none) :
    SlotStep w (w.select_periodic it) a reports := by
  have hpreempted : regularPreempted w.point reports = false := by rw [hpoint]; rfl
  cases hretry : it.retry_selected with
  | true =>
    refine .keeps ?_ hpreempted hreading ?_ ?_ fun _ => rfl
    · rw [hpoint]
      simp [select_periodic, regularSelected, hretry]
    · simp [select_periodic, hretry]
    · simp [select_periodic, hretry]
  | false =>
    refine .takes ?_ hpreempted hreading (fun hvalid => ?_) rfl
    · rw [hpoint]
      simp [select_periodic, regularSelected, hretry]
    · simp only [select_periodic, hretry, Bool.false_eq_true, not_false_eq_true, if_true] at hvalid ⊢
      split at hvalid <;> rename_i hnext
      · dsimp only [hnext]
        refine ⟨hvalid, periodic_interval_pos _ _, checked_add_some ?_⟩
        simpa [consume_periodic_selection, regular_deadline_after_selection] using hnext
      · simp at hvalid

/-- Nothing but the queues and the signal has changed. -/
def QueuesOnly (s s' : LoraShared) : Prop :=
  ∃ channels signal, s' =
    { s with toLoraChannels := channels, control_roll_lora_signal := signal }

theorem QueuesOnly.missed {s s' : LoraShared} (h : QueuesOnly s s') :
    s'.lora_periodic_missed_slot_count = s.lora_periodic_missed_slot_count := by
  obtain ⟨_, _, rfl⟩ := h
  rfl

theorem QueuesOnly.globals {s s' : LoraShared} (h : QueuesOnly s s') :
    s'.globals = s.globals := by
  obtain ⟨_, _, rfl⟩ := h
  rfl

theorem receive_queues_only {s s' : LoraShared} {source : LoRaTxSource} {e : LoRaTxEnvelope}
    (h : s.receive source = some (e, s')) : QueuesOnly s s' := by
  cases source
  case Periodic => simp [LoraShared.receive] at h
  all_goals
    simp only [LoraShared.receive, Option.map_eq_some_iff, Prod.mk.injEq] at h
    obtain ⟨_, _, _, rfl⟩ := h
    exact ⟨_, _, rfl⟩

theorem select5_queues_only {s s' : LoraShared} {l : LoraLoop} {it : Iteration}
    {recovery_timer periodic_timer : Nat} {ready : Ready} {reports : List LoraReport}
    (h : select5 s l it recovery_timer periodic_timer = some (ready, s', reports)) :
    QueuesOnly s s' := by
  simp only [select5, receive_ready, recovery_ready, control_roll_or_periodic_ready,
    Option.or_eq_some_iff, Option.map_eq_some_iff, Prod.mk.injEq] at h
  rcases h with ⟨_, h, -, rfl, -⟩ | ⟨-, ⟨_, h, -, rfl, -⟩ | ⟨-, ⟨_, h, -, rfl, -⟩ | ⟨-, h | ⟨-, h⟩⟩⟩⟩
  · exact receive_queues_only h
  · exact receive_queues_only h
  · exact receive_queues_only h
  · split at h
    · simp at h
    · split at h
      · split at h <;> cases h
        exact ⟨_, _, rfl⟩
      · simp only [Option.map_eq_some_iff, Prod.mk.injEq] at h
        obtain ⟨_, h, -, rfl, -⟩ := h
        exact receive_queues_only h
  · split at h
    · cases h
      exact ⟨_, _, rfl⟩
    · split at h <;> cases h
      exact ⟨_, _, rfl⟩

/-- A step is judged by the point, the loop and the missed slots alone. -/
theorem SlotStep.of_eq {v w w' : LoraTx} {a : Action} {reports : List LoraReport}
    (h : SlotStep v w' a reports) (hpoint : v.point = w.point) (hloop : v.loop = w.loop)
    (hbefore : missed v = missed w) : SlotStep w w' a reports := by
  cases h with
  | keeps hselected hpreempted hreading hvalid hnext hmissed =>
    rw [hpoint] at hselected hpreempted
    rw [hloop] at hvalid hnext
    exact .keeps hselected hpreempted hreading hvalid hnext fun h => (hmissed h).trans hbefore
  | takes hselected hpreempted hreading hnext hmissed =>
    rw [hpoint] at hselected hpreempted
    rw [hloop] at hnext
    exact .takes hselected hpreempted hreading hnext (hmissed.trans hbefore)
  | gives_up hselected hpreempted hreading hvalid hnext hmissed =>
    rw [hpoint] at hselected hpreempted
    rw [hloop] at hvalid hnext
    exact .gives_up hselected hpreempted hreading hvalid hnext fun h => by rw [hmissed h, hbefore]
  | skips hselected hpreempted hreading hreports hskips =>
    rw [hpoint] at hselected hpreempted
    refine .skips hselected hpreempted hreading hreports fun hvalid => ?_
    obtain ⟨hv, hfuture, hinterval, hwhole, hcounted⟩ := hskips hvalid
    rw [hloop] at hv hwhole
    rw [hbefore, hloop] at hcounted
    exact ⟨hv, hfuture, hinterval, hwhole, hcounted⟩

theorem select_slot {w w' : LoraTx} {it : Iteration} {recovery_timer periodic_timer now : Nat}
    {a : Action} {reports : List LoraReport} (hpoint : w.point = .Select it)
    (hreading : skippedAt a = none)
    (h : w.select it recovery_timer periodic_timer now = some (w', reports)) :
    SlotStep w w' a reports := by
  simp only [select, Option.map_eq_some_iff] at h
  obtain ⟨⟨ready, shared, reports'⟩, hready, h⟩ := h
  have hmissed : missed { w with shared } = missed w := (select5_queues_only hready).missed
  refine SlotStep.of_eq (v := { w with shared }) ?_ rfl rfl hmissed
  have hpreempted (new : List LoraReport) : regularPreempted w.point new = false := by
    rw [hpoint]
    rfl
  cases ready <;> obtain ⟨rfl, rfl⟩ := Prod.mk.inj h
  case first_to_third e =>
    exact .keeps (by rw [hpoint]; rfl) (hpreempted _) hreading rfl rfl fun _ => rfl
  case fourth e =>
    dsimp only
    unfold select_recovery
    dsimp only
    split <;> exact .keeps (by rw [hpoint]; rfl) (hpreempted _) hreading rfl rfl fun _ => rfl
  case periodic => exact select_periodic_slot hpoint hreading
  case control_roll =>
    exact .keeps (by rw [hpoint]; rfl) (hpreempted _) hreading rfl rfl fun _ => rfl

theorem build_slot {w : LoraTx} {it : Iteration} {event_only : Bool} {now_ms : Nat}
    {cache : CanCache} {a : Action} (now : Nat) (hpoint : w.point = .Build it event_only now_ms cache)
    (hreading : skippedAt a = none) :
    SlotStep w (w.build it event_only now_ms cache now).1 a
      (w.build it event_only now_ms cache now).2 := by
  have hselected (point : LoraPoint) : regularSelected w.point point = false := by rw [hpoint]; rfl
  have hpreempted (new : List LoraReport) : regularPreempted w.point new = false := by
    rw [hpoint]
    rfl
  unfold build
  dsimp only
  split
  · cases event_only with
    | true => exact .keeps (hselected _) (hpreempted _) hreading rfl rfl fun _ => rfl
    | false =>
      rw [if_neg Bool.false_ne_true]
      generalize hskip : skip_overdue_periodic_deadlines _ now = skipped
      refine @SlotStep.skips _ _ _ _ now (hselected _) (hpreempted _) (by simp [hreading])
        ⟨_, List.mem_singleton_self _, rfl⟩ fun hvalid => ?_
      obtain ⟨hbefore, hfuture, hinterval, hwhole, hcounted⟩ := skip_overdue_skips hskip hvalid
      exact ⟨hbefore, hfuture, hinterval, hwhole, hcounted⟩
  · cases event_only <;>
      exact .keeps (hselected _) (hpreempted _) hreading rfl rfl fun _ => rfl

theorem take_higher_queues_only {s : LoraShared} {l : LoraLoop} {selected : LoRaTxSource}
    {it : Iteration} {now : Nat} {taken : Taken}
    (h : take_higher_priority_envelope s l selected it now = some taken) :
    QueuesOnly s taken.shared := by
  simp only [take_higher_priority_envelope, LoraShared.take_queued, Option.or_eq_some_iff] at h
  rcases h with h | ⟨-, h | ⟨-, h | ⟨-, h⟩⟩⟩ <;> split at h
  all_goals try simp at h
  case inr.inr.inr.isTrue =>
    split at h
    · obtain rfl := Option.some.inj h
      exact ⟨_, _, rfl⟩
    · obtain ⟨_, hreceive, rfl⟩ := Option.map_eq_some_iff.mp h
      exact receive_queues_only hreceive
  all_goals
    obtain ⟨_, _, h, rfl⟩ := h
    exact receive_queues_only h

/-- Only a Periodic packet stands for a slot that can be given up. -/
theorem reselect_slot {w : LoraTx} {it : Iteration} {e : LoRaTxEnvelope} {regular : Bool}
    {choice : Choice} {a : Action} (now : Nat) (hpoint : w.point = .Prepare it e regular choice)
    (hreading : skippedAt a = none) (hperiodic : regular = true → e.source = .Periodic) :
    SlotStep w (w.reselect it e regular choice now).1 a (w.reselect it e regular choice now).2 := by
  have hselected (point : LoraPoint) : regularSelected w.point point = false := by rw [hpoint]; rfl
  unfold reselect
  split <;> rename_i htake
  · exact .keeps (hselected _) (by rw [hpoint]; simp [regularPreempted]) hreading rfl rfl fun _ => rfl
  · have hshared := (take_higher_queues_only htake).missed
    cases regular with
    | false =>
      refine .keeps (hselected _) (by rw [hpoint]; rfl) hreading rfl rfl fun hunsaturated => ?_
      simp only [Unsaturated, missed, add_periodic_missed_slots, hshared] at hunsaturated ⊢
      simp only [Bool.false_eq_true, if_false] at hunsaturated ⊢
      omega
    | true =>
      refine .gives_up (hselected _) (by rw [hpoint]; simp [regularPreempted, isPreempted]) hreading
        rfl rfl fun hunsaturated => ?_
      simp only [Unsaturated, missed, add_periodic_missed_slots, hshared, hperiodic rfl,
        preempted_periodic_missed_slots, if_true] at hunsaturated ⊢
      omega

/-- The deadline behind an attempt is the one behind the overdue slots. -/
theorem complete_attempt_skips (w : LoraTx) (it : Iteration) (e : LoRaTxEnvelope)
    (displaced : Bool) (choice : Choice) (ok : Bool) (completed_at skipped_at : Nat) :
    ∃ l skipped retry point, l.toPeriodicVars = { w.loop.toPeriodicVars with
        periodic_retry_at := l.periodic_retry_at } ∧
      ({ w with loop := l } : LoraTx).skip_overdue_periodic_deadlines skipped_at = skipped ∧
      w.complete_attempt it e displaced choice ok completed_at skipped_at =
        ({ skipped.1 with loop := { skipped.1.loop with periodic_retry_at := retry }, point },
          [.attempted e it choice ok]) := by
  unfold complete_attempt
  dsimp only
  generalize hskip : skip_overdue_periodic_deadlines _ skipped_at = skipped
  split
  · refine ⟨_, skipped, _, _, ?_, hskip, rfl⟩
    rfl
  · refine ⟨_, skipped, skipped.1.loop.periodic_retry_at, _, ?_, hskip, rfl⟩
    rfl

theorem complete_attempt_slot {w : LoraTx} {it : Iteration} {e : LoRaTxEnvelope}
    {choice : Choice} {a : Action} (displaced transmitted : Bool) (completed_at skipped_at : Nat)
    (hpoint : Attempting e it choice w.point) (hreading : skippedAt a = some skipped_at) :
    SlotStep w (w.complete_attempt it e displaced choice transmitted completed_at skipped_at).1 a
      (w.complete_attempt it e displaced choice transmitted completed_at skipped_at).2 := by
  obtain ⟨l, skipped, retry, point, hl, hskip, hafter⟩ :=
    complete_attempt_skips w it e displaced choice transmitted completed_at skipped_at
  rw [hafter]
  have hselected (point : LoraPoint) : regularSelected w.point point = false := by
    rcases hpoint with ⟨_, hpoint⟩ | ⟨_, hpoint⟩ <;> rw [hpoint] <;> rfl
  have hpreempted : regularPreempted w.point [.attempted e it choice transmitted] = false := by
    rcases hpoint with ⟨_, hpoint⟩ | ⟨_, hpoint⟩ <;> rw [hpoint] <;>
      simp [regularPreempted, isPreempted]
  have hreports : ∃ r ∈ [LoraReport.attempted e it choice transmitted], slotsSkipped r = true :=
    ⟨_, List.mem_singleton_self _, rfl⟩
  refine @SlotStep.skips _ _ _ _ skipped_at (hselected _) hpreempted (by simp [hreading]) hreports
    fun hvalid => ?_
  obtain ⟨hbefore, hfuture, hinterval, hwhole, hcounted⟩ := skip_overdue_skips hskip hvalid
  dsimp only at hbefore hwhole hcounted
  rw [hl] at hbefore hwhole hcounted
  exact ⟨hbefore, hfuture, hinterval, hwhole, hcounted⟩

theorem other_not_preempted {s s' : LoraShared} {point : LoraPoint} {a : Action}
    {reports : List LoraReport} (h : step_other s a = some (s', reports)) :
    regularPreempted point reports = false := by
  unfold regularPreempted
  split
  · rw [Bool.and_eq_false_imp]
    intro _
    rw [List.any_eq_false]
    intro r hr
    obtain ⟨flags, rfl⟩ := (step_other_arrives h).cached.mission r hr
    simp [isPreempted]
  · rfl

theorem step_other_slot {w : LoraTx} {shared : LoraShared} {a : Action} {reports : List LoraReport}
    (h : step_other w.shared a = some (shared, reports)) (now : Nat) :
    SlotStep w { w with shared, now } a reports := by
  have hselected : regularSelected w.point w.point = false := by cases w.point <;> rfl
  have hmissed : shared.lora_periodic_missed_slot_count =
      w.shared.lora_periodic_missed_slot_count := by
    cases a <;> first
      | obtain ⟨rfl, rfl⟩ := Prod.mk.inj (Option.some.inj h); rfl
      | cases h
  have hreading : skippedAt a = none := by
    cases a <;> first | rfl | cases h
  exact .keeps hselected (other_not_preempted h) hreading rfl rfl fun _ => hmissed

/-! ## The slot of the packet in hand -/

/-- The loop holds a regular slot that it may still give up. -/
def slotInHand : LoraPoint → Bool
  | .Snapshot it event_only | .Build it event_only _ _ => !event_only && !it.retry_selected
  | .Prepare _ _ regular _ => regular
  | _ => false

/-- A packet that holds a slot is Periodic. -/
def RegularPeriodic : LoraPoint → Prop
  | .Prepare _ e regular _ => regular = true → e.source = .Periodic
  | _ => True

theorem turn_regular {now : Nat} {s s' : LoraShared} {h h' : HeldVars} {point point' : LoraPoint}
    {reports : List LoraReport} (turn : Turn now s h point s' h' point' reports) :
    RegularPeriodic point' := by
  cases turn with
  | built => exact fun _ => rfl
  | deferred | selected => exact fun hregular => absurd hregular Bool.false_ne_true
  | transmitted _ hafter =>
    subst hafter
    split <;> trivial
  | _ => trivial

theorem build_in_hand {w w' : LoraTx} {it : Iteration} {event_only : Bool} {now_ms now : Nat}
    {cache : CanCache} {reports : List LoraReport}
    (h : w.build it event_only now_ms cache now = (w', reports))
    (hhand : slotInHand w'.point = true) : slotInHand (.Build it event_only now_ms cache) = true := by
  have hpoint : (w.build it event_only now_ms cache now).1.point = w'.point := by rw [h]
  rw [← hpoint] at hhand
  unfold build at hhand
  dsimp only at hhand
  split at hhand
  · cases event_only <;> simp [slotInHand] at hhand
  · exact hhand

theorem step_loop_build {w w' : LoraTx} {it : Iteration} {event_only : Bool} {now_ms : Nat}
    {cache : CanCache} {a : Action} {reports : List LoraReport}
    (hpoint : w.point = .Build it event_only now_ms cache)
    (h : step_loop w a = some (w', reports)) :
    ∃ now, w.build it event_only now_ms cache now = (w', reports) := by
  cases a <;> simp only [step_loop, hpoint, Option.some.injEq, reduceCtorEq] at h
  case build now => exact ⟨now, h⟩

/-- A slot in hand was just selected, or it was in hand before and is not given up. -/
theorem turn_in_hand {now : Nat} {s s' : LoraShared} {h h' : HeldVars} {point point' : LoraPoint}
    {reports : List LoraReport} (turn : Turn now s h point s' h' point' reports)
    (hbuild : ∀ it event_only now_ms cache, point = .Build it event_only now_ms cache →
      slotInHand point' = true → slotInHand point = true)
    (hhand : slotInHand point' = true) :
    slotInHand point = true ∧ regularPreempted point reports = false ∨
      regularSelected point point' = true := by
  cases turn with
  | periodic => exact .inr (by simpa [slotInHand, regularSelected] using hhand)
  | snapshot => exact .inl ⟨hhand, rfl⟩
  | built => exact .inl ⟨hbuild _ _ _ _ rfl hhand, rfl⟩
  | transmitted _ hafter =>
    subst hafter
    split at hhand <;> simp [slotInHand] at hhand
  | _ => simp [slotInHand] at hhand

theorem preempted_in_hand {point : LoraPoint} {reports : List LoraReport}
    (h : regularPreempted point reports = true) : slotInHand point = true := by
  unfold regularPreempted at h
  split at h
  · exact (Bool.and_eq_true_iff.mp h).1
  · simp at h

/-! ## Every step -/

theorem step_loop_slot {w w' : LoraTx} {a : Action} {reports : List LoraReport}
    (hregular : RegularPeriodic w.point) (h : step_loop w a = some (w', reports)) :
    SlotStep w w' a reports := by
  unfold step_loop at h
  split at h
  case h_9 => simp at h
  case h_2 hpoint => exact select_slot hpoint rfl h
  all_goals rw [Option.some.injEq] at h
  case h_1 hpoint =>
    have hselected (point : LoraPoint) : regularSelected w.point point = false := by
      rw [hpoint]
      rfl
    unfold begin_iteration at h
    dsimp only at h
    split at h <;> obtain ⟨rfl, rfl⟩ := Prod.mk.inj h <;>
      exact .keeps (hselected _) (by rw [hpoint]; rfl) rfl rfl rfl fun _ => rfl
  case h_3 hpoint =>
    obtain ⟨rfl, rfl⟩ := Prod.mk.inj h
    exact .keeps (by rw [hpoint]; rfl) (by rw [hpoint]; rfl) rfl rfl rfl fun _ => rfl
  case h_4 now hpoint =>
    have hslot := build_slot now hpoint (a := .build now) rfl
    rwa [h] at hslot
  case h_5 now hpoint =>
    rw [hpoint] at hregular
    have hslot := reselect_slot now hpoint (a := .prepared now) rfl hregular
    rwa [h] at hslot
  case h_6 completed_at skipped_at hpoint =>
    have hslot := complete_attempt_slot false false completed_at skipped_at (.inl ⟨_, hpoint⟩)
      (a := .prepare_failed completed_at skipped_at) rfl
    rwa [h] at hslot
  case h_7 displaced _ transmitted completed_at skipped_at hpoint =>
    have hslot := complete_attempt_slot displaced transmitted completed_at skipped_at
      (.inr ⟨_, hpoint⟩) (a := .transmitted transmitted completed_at skipped_at) rfl
    rwa [h] at hslot
  case h_8 hpoint =>
    obtain ⟨rfl, rfl⟩ := Prod.mk.inj h
    exact .keeps (by rw [hpoint]; rfl) (by rw [hpoint]; rfl) rfl rfl rfl fun _ => rfl

theorem step_slot {w w' : LoraTx} {a : Action} {reports : List LoraReport}
    (hregular : RegularPeriodic w.point) (h : machine.step w a = some (w', reports)) :
    SlotStep w w' a reports ∧ RegularPeriodic w'.point ∧
      (slotInHand w'.point = true →
        slotInHand w.point = true ∧ regularPreempted w.point reports = false ∨
          regularSelected w.point w'.point = true) := by
  simp only [machine, LoraTx.step] at h
  split at h
  · cases h
  · rename_i now hclock
    split at h <;> rename_i hother
    · obtain ⟨rfl, rfl⟩ := Prod.mk.inj (Option.some.inj h)
      exact ⟨step_other_slot hother now, hregular,
        fun hhand => .inl ⟨hhand, other_not_preempted hother⟩⟩
    · have turn := step_loop_turns hclock h
      have hslot := step_loop_slot (w := { w with now }) hregular h
      refine ⟨hslot.of_eq rfl rfl rfl, turn_regular turn, turn_in_hand turn ?_⟩
      intro it event_only now_ms cache hpoint hhand
      obtain ⟨_, hbuild⟩ := step_loop_build (w := { w with now }) hpoint h
      rw [hpoint]
      exact build_in_hand hbuild hhand

/-! ## The slots of a run -/

/-- Whenever the deadline moves, the interval is `I`. -/
def Constant (I : Nat) (w : LoraTx) (a : Action) : Prop :=
  ∀ w' reports, machine.step w a = some (w', reports) →
    w'.loop.next_tx_at ≠ w.loop.next_tx_at → w'.loop.interval = I

theorem Skips.moves {w w' : LoraTx} {now I : Nat} (h : Skips w w' now)
    (hI : w'.loop.next_tx_at ≠ w.loop.next_tx_at → w'.loop.interval = I)
    (hunsaturated : Unsaturated w') : missed w ≤ missed w' ∧
      w'.loop.next_tx_at = w.loop.next_tx_at + I * (missed w' - missed w) := by
  obtain ⟨hle, hnext⟩ := h.counted hunsaturated
  refine ⟨hle, ?_⟩
  by_cases hmoves : w'.loop.next_tx_at = w.loop.next_tx_at
  · have hnone : missed w' - missed w = 0 := by
      have hpos := h.interval
      rw [hmoves] at hnext
      have hzero : w'.loop.interval * (missed w' - missed w) = 0 := by omega
      exact (Nat.mul_eq_zero.mp hzero).resolve_left (by omega)
    rw [hmoves, hnone, Nat.mul_zero, Nat.add_zero]
  · rw [hnext, hI hmoves]

/-- Every slot since `w₀` was used or is missed. -/
structure Accounted (I : Nat) (w₀ : LoraTx) (s : LoraTx × Slots) : Prop where
  regular : RegularPeriodic s.1.point
  selected : s.2.preempted ≤ s.2.selected
  in_hand : slotInHand s.1.point = true → s.2.preempted < s.2.selected
  counted : s.1.loop.periodic_deadline_valid = true → Unsaturated s.1 → missed w₀ ≤ missed s.1 ∧
    s.1.loop.next_tx_at = w₀.loop.next_tx_at + I * (s.2.used + (missed s.1 - missed w₀))

theorem accounted_step {I : Nat} {w₀ w w' : LoraTx} {slots : Slots} {a : Action}
    {reports : List LoraReport} (accounted : Accounted I w₀ (w, slots)) (hI : Constant I w a)
    (h : machine.step w a = some (w', reports)) :
    Accounted I w₀ (w', slots.next w w' reports) := by
  obtain ⟨hregular, hselected, hhand, hcounted⟩ := accounted
  dsimp only at hregular hselected hhand hcounted
  obtain ⟨hslot, hregular', hhand'⟩ := step_slot hregular h
  have hmoves := hI w' reports h
  cases hslot with
  | keeps hs hp _ hvalid hnext hmissed =>
    rw [Slots.next, hs, hp]
    refine ⟨hregular', hselected, fun hin => ?_, fun hv hu => ?_⟩
    · rcases hhand' hin with ⟨hin, -⟩ | hnew
      · exact hhand hin
      · simp [hs] at hnew
    · dsimp only at hv hu ⊢
      have hm := hmissed hu
      rw [Unsaturated, hm] at hu
      rw [hm, hnext]
      exact hcounted (hvalid ▸ hv) hu
  | takes hs hp _ hnext hmissed =>
    rw [Slots.next, hs, hp]
    refine ⟨hregular', by simp only [Bool.toNat_true, Bool.toNat_false]; omega,
      fun _ => by simp only [Bool.toNat_true, Bool.toNat_false]; omega, fun hv hu => ?_⟩
    dsimp only at hv hu ⊢
    obtain ⟨hv, hpos, hnext⟩ := hnext hv
    rw [Unsaturated, hmissed] at hu
    obtain ⟨hle, hcount⟩ := hcounted hv hu
    have hinterval := hmoves (by omega)
    rw [hmissed]
    refine ⟨hle, ?_⟩
    have htotal : (Slots.mk (slots.selected + true.toNat) (slots.preempted + false.toNat)).used +
        (missed w - missed w₀) = slots.used + (missed w - missed w₀) + 1 := by
      simp only [Slots.used, Bool.toNat_true, Bool.toNat_false]
      omega
    rw [htotal, hnext, hcount, hinterval, Nat.mul_succ, Nat.add_assoc]
  | gives_up hs hp _ hvalid hnext hmissed =>
    have hless := hhand (preempted_in_hand hp)
    rw [Slots.next, hs, hp]
    refine ⟨hregular', by simp only [Bool.toNat_true, Bool.toNat_false]; omega, fun hin => ?_,
      fun hv hu => ?_⟩
    · rcases hhand' hin with ⟨-, hkept⟩ | hnew
      · simp [hp] at hkept
      · simp [hs] at hnew
    · dsimp only at hv hu ⊢
      have hm := hmissed hu
      rw [Unsaturated, hm] at hu
      obtain ⟨hle, hcount⟩ := hcounted (hvalid ▸ hv) (Nat.lt_of_succ_lt hu)
      have htotal : (Slots.mk (slots.selected + false.toNat) (slots.preempted + true.toNat)).used +
          (missed w + 1 - missed w₀) = slots.used + (missed w - missed w₀) := by
        simp only [Slots.used, Bool.toNat_true, Bool.toNat_false]
        omega
      rw [hm, hnext, htotal]
      exact ⟨Nat.le_succ_of_le hle, hcount⟩
  | skips hs hp _ _ hskips =>
    rw [Slots.next, hs, hp]
    refine ⟨hregular', hselected, fun hin => ?_, fun hv hu => ?_⟩
    · rcases hhand' hin with ⟨hin, -⟩ | hnew
      · exact hhand hin
      · simp [hs] at hnew
    · dsimp only at hv hu ⊢
      obtain ⟨hle, hnext⟩ := (hskips hv).moves hmoves hu
      obtain ⟨hle₀, hcount⟩ := hcounted (hskips hv).valid (Nat.lt_of_le_of_lt hle hu)
      have htotal : slots.used + (missed w' - missed w₀) =
          slots.used + (missed w - missed w₀) + (missed w' - missed w) := by omega
      refine ⟨hle₀.trans hle, ?_⟩
      rw [hnext, hcount, Nat.add_assoc, ← Nat.mul_add, ← htotal]
      rfl

theorem accounted_run {I : Nat} {w₀ w : LoraTx} {slots : Slots} {past : List LoraReport}
    (htop : w₀.point = .Top)
    (run : Machine.Run ((machine.startingIn w₀).watched ⟨0, 0⟩ Slots.next)
      (fun s a => Constant I s.1 a) past (w, slots)) : Accounted I w₀ (w, slots) := by
  refine run.always (I := Accounted I w₀) ?_ ?_
  · rintro ⟨w, slots⟩ ⟨hw, hslots⟩
    dsimp only [Machine.startingIn] at hw hslots
    subst hw hslots
    refine ⟨?_, le_rfl, fun hin => ?_, fun _ _ => ⟨le_rfl, by simp [Slots.used]⟩⟩ <;>
      dsimp only at * <;> rw [htop] at *
    · trivial
    · simp [slotInHand] at hin
  · rintro ⟨w, slots⟩ a ⟨w', slots'⟩ reports accounted hI h
    obtain ⟨hstep, rfl⟩ := Machine.watched_step h
    exact accounted_step accounted hI hstep

/-! ## The phase -/

theorem skip_overdue_interval (w : LoraTx) (now : Nat) :
    (w.skip_overdue_periodic_deadlines now).1.loop.interval = w.loop.interval := by
  unfold skip_overdue_periodic_deadlines
  split
  · split <;> rfl
  · rfl

/-- The three intervals are 250, 500 and 10000 milliseconds. -/
theorem periodic_interval_quarters (recovery_active cycle_active : Bool) :
    250000 ∣ from_millis (periodic_interval_ms recovery_active cycle_active) := by
  cases recovery_active <;> cases cycle_active <;> decide

theorem select_quarters {w w' : LoraTx} {it : Iteration} {recovery_timer periodic_timer now : Nat}
    {reports : List LoraReport} (hinterval : 250000 ∣ w.loop.interval)
    (h : w.select it recovery_timer periodic_timer now = some (w', reports)) :
    250000 ∣ w'.loop.interval := by
  simp only [select, Option.map_eq_some_iff] at h
  obtain ⟨⟨ready, shared, reports'⟩, -, h⟩ := h
  cases ready <;> obtain ⟨rfl, rfl⟩ := Prod.mk.inj h
  case first_to_third | control_roll => exact hinterval
  case fourth e =>
    dsimp only
    unfold select_recovery
    dsimp only
    split <;> exact hinterval
  case periodic =>
    unfold select_periodic
    dsimp only
    split
    · split <;> exact periodic_interval_quarters _ _
    · exact periodic_interval_quarters _ _

theorem complete_attempt_interval (w : LoraTx) (it : Iteration) (e : LoRaTxEnvelope)
    (displaced : Bool) (choice : Choice) (ok : Bool) (completed_at skipped_at : Nat) :
    (w.complete_attempt it e displaced choice ok completed_at skipped_at).1.loop.interval =
      w.loop.interval := by
  obtain ⟨l, skipped, retry, point, hl, hskip, hafter⟩ :=
    complete_attempt_skips w it e displaced choice ok completed_at skipped_at
  rw [hafter]
  dsimp only
  rw [← hskip, skip_overdue_interval]
  dsimp only
  rw [hl]

theorem build_interval (w : LoraTx) (it : Iteration) (event_only : Bool) (now_ms : Nat)
    (cache : CanCache) (now : Nat) :
    (w.build it event_only now_ms cache now).1.loop.interval = w.loop.interval := by
  unfold build
  dsimp only
  split
  · split
    · rfl
    · exact skip_overdue_interval _ _
  · cases event_only <;> rfl

/-- Only the selection of the periodic packet sets the interval. -/
theorem step_loop_quarters {w w' : LoraTx} {a : Action} {reports : List LoraReport}
    (hinterval : 250000 ∣ w.loop.interval) (h : step_loop w a = some (w', reports)) :
    250000 ∣ w'.loop.interval := by
  unfold step_loop at h
  split at h
  case h_9 => simp at h
  case h_2 => exact select_quarters hinterval h
  all_goals
    have hafter := congrArg (fun after => after.1.loop.interval) (Option.some.inj h)
    dsimp only at hafter
    rw [← hafter]
  case h_1 =>
    unfold begin_iteration
    dsimp only
    split <;> exact hinterval
  case h_3 | h_8 => exact hinterval
  case h_4 => rwa [build_interval]
  case h_5 =>
    unfold reselect
    split <;> exact hinterval
  case h_6 | h_7 => rwa [complete_attempt_interval]

theorem step_quarters {w w' : LoraTx} {a : Action} {reports : List LoraReport}
    (hinterval : 250000 ∣ w.loop.interval) (h : machine.step w a = some (w', reports)) :
    250000 ∣ w'.loop.interval := by
  cases step_stepped h with
  | other _ _ hloop => rwa [hloop]
  | turn _ hstep => exact step_loop_quarters (w := { w with now := _ }) (by exact hinterval) hstep

theorem quarters_run {ok : LoraTx → Action → Prop} {past : List LoraReport} {w : LoraTx}
    (run : Machine.Run machine ok past w) : 250000 ∣ w.loop.interval := by
  refine run.always (I := fun w => 250000 ∣ w.loop.interval) ?_ fun _ _ _ _ hi _ h => step_quarters hi h
  rintro w ⟨started_at, now, -, -, rfl⟩
  exact periodic_interval_quarters false false

/-- The phase of the deadline since `w₀`. -/
structure InPhase (w₀ w : LoraTx) : Prop where
  regular : RegularPeriodic w.point
  interval : 250000 ∣ w.loop.interval
  phase : w.loop.periodic_deadline_valid = true →
    w.loop.next_tx_at ≡ w₀.loop.next_tx_at [MOD 250000]

theorem in_phase_step {w₀ w w' : LoraTx} {a : Action} {reports : List LoraReport}
    (phase : InPhase w₀ w) (h : machine.step w a = some (w', reports)) : InPhase w₀ w' := by
  obtain ⟨hslot, hregular, -⟩ := step_slot phase.regular h
  have hinterval := step_quarters phase.interval h
  refine ⟨hregular, hinterval, fun hvalid => ?_⟩
  have hwhole (slots : Nat) (hbefore : w.loop.periodic_deadline_valid = true)
      (hnext : w'.loop.next_tx_at = w.loop.next_tx_at + w'.loop.interval * slots) :
      w'.loop.next_tx_at ≡ w₀.loop.next_tx_at [MOD 250000] := by
    rw [hnext]
    have hmoved : w'.loop.interval * slots ≡ 0 [MOD 250000] :=
      (Nat.modEq_zero_iff_dvd).mpr (hinterval.mul_right slots)
    exact (phase.phase hbefore).add hmoved
  cases hslot with
  | keeps _ _ _ hv hnext | gives_up _ _ _ hv hnext => exact hwhole 0 (hv ▸ hvalid) (by simpa using hnext)
  | takes _ _ _ hnext =>
    obtain ⟨hv, -, hnext⟩ := hnext hvalid
    exact hwhole 1 hv (by rw [Nat.mul_one, hnext])
  | skips _ _ _ _ hskips =>
    obtain ⟨slots, hnext⟩ := (hskips hvalid).whole
    exact hwhole slots (hskips hvalid).valid hnext

theorem in_phase_run {past₀ past : List LoraReport} {w₀ w : LoraTx}
    (reach : Machine.Run machine Machine.anyStep past₀ w₀) (htop : w₀.point = .Top)
    (run : Machine.Run (machine.startingIn w₀) Machine.anyStep past w) : InPhase w₀ w := by
  refine run.always (I := InPhase w₀) ?_ ?_
  · rintro w rfl
    refine ⟨?_, quarters_run reach, fun _ => rfl⟩
    rw [htop]
    trivial
  · intro w a w' reports phase _ h
    exact in_phase_step phase h

/-! ## What holds of every run -/

/-- `w₀` is any start of an iteration: the first deadline is its `next_tx_at`. -/
theorem deadlines_on_schedule {past₀ : List LoraReport} {w₀ : LoraTx}
    (reach : Machine.Run machine Machine.anyStep past₀ w₀) (htop : w₀.point = .Top) :
    -- Every slot was used, or it is counted as missed.
    (∀ I past w slots, Machine.Run ((machine.startingIn w₀).watched ⟨0, 0⟩ Slots.next)
        (fun s a => Constant I s.1 a) past (w, slots) →
      w.loop.periodic_deadline_valid = true → Unsaturated w →
        slots.preempted ≤ slots.selected ∧ missed w₀ ≤ missed w ∧
          w.loop.next_tx_at = w₀.loop.next_tx_at +
            I * ((slots.selected - slots.preempted) + (missed w - missed w₀))) ∧
    ∀ past w, Machine.Run (machine.startingIn w₀) Machine.anyStep past w →
      ∀ a w' reports, machine.step w a = some (w', reports) →
        w'.loop.periodic_deadline_valid = true →
          -- An attempt leaves no overdue slot.
          (∀ skipped_at, skippedAt a = some skipped_at → skipped_at < w'.loop.next_tx_at) ∧
          -- All but a regular slot keep the phase.
          (∀ I, Constant I w a → Unsaturated w' → regularSelected w.point w'.point = false →
            regularPreempted w.point reports = false →
              missed w ≤ missed w' ∧
              w'.loop.next_tx_at = w.loop.next_tx_at + I * (missed w' - missed w) ∧
              ((∀ r ∈ reports, slotsSkipped r = false) → missed w' = missed w)) ∧
          -- Whatever the intervals are.
          w'.loop.next_tx_at ≡ w₀.loop.next_tx_at [MOD 250000] := by
  refine ⟨fun I past w slots run hvalid hunsaturated => ?_, fun past w run => ?_⟩
  · have accounted := accounted_run htop run
    obtain ⟨hle, hnext⟩ := accounted.counted hvalid hunsaturated
    exact ⟨accounted.selected, hle, hnext⟩
  · intro a w' reports h hvalid
    have phase := in_phase_run reach htop run
    obtain ⟨hslot, -⟩ := step_slot phase.regular h
    refine ⟨fun skipped_at hat => ?_, fun I hI hunsaturated hs hp => ?_,
      (in_phase_step phase h).phase hvalid⟩
    · cases hslot with
      | keeps _ _ hreading | takes _ _ hreading | gives_up _ _ hreading => simp [hreading] at hat
      | skips _ _ hreading _ hskips =>
        rw [← hreading skipped_at hat]
        exact (hskips hvalid).future
    · cases hslot with
      | keeps _ _ _ _ hnext hmissed =>
        have hm := hmissed hunsaturated
        rw [hm, hnext]
        exact ⟨le_rfl, by simp, fun _ => rfl⟩
      | takes hselected => simp [hs] at hselected
      | gives_up _ hpreempted => simp [hp] at hpreempted
      | skips _ _ _ hreports hskips =>
        obtain ⟨hle, hnext⟩ := (hskips hvalid).moves (hI w' reports h) hunsaturated
        refine ⟨hle, hnext, fun hnone => ?_⟩
        obtain ⟨r, hr, hskipped⟩ := hreports
        simp [hnone r hr] at hskipped

/-! ## A transmission that takes two seconds -/

def lateAttempt : List Action :=
  [.begin_iteration 500000, .select 500000 500000 500000, .snapshot 500000, .build 500000,
    .prepared 500000, .transmitted true 600000 2600000]

def intervalHalfSecond (s : LoraTx × Slots) (a : Action) : Bool :=
  (machine.step s.1 a).all fun after =>
    after.1.loop.next_tx_at = s.1.loop.next_tx_at || after.1.loop.interval = 500000

/-- Four slots went by. -/
def fourMissed (s : LoraTx × Slots) : Bool :=
  s.1.loop.periodic_deadline_valid && decide (missed s.1 = 4) && decide (s.2 = ⟨1, 0⟩)

theorem deadlines_on_schedule_late :
    ∃ past w slots, Machine.Run ((machine.startingIn entered).watched ⟨0, 0⟩ Slots.next)
        (fun s a => Constant 500000 s.1 a) past (w, slots) ∧
      w.loop.next_tx_at = 500000 + 500000 * ((slots.selected - slots.preempted) + 4) := by
  have hrun : ∃ past s, Machine.Run
      (((machine.startingIn entered).watched ⟨0, 0⟩ Slots.next).checked intervalHalfSecond)
      Machine.anyStep past s ∧ fourMissed s :=
    Machine.exists_run (fun s _ => fourMissed s) (s := (entered, ⟨0, 0⟩)) lateAttempt ⟨rfl, rfl⟩
      (fun _ _ _ => trivial) (by decide +kernel)
  obtain ⟨past, ⟨w, slots⟩, run, hmissed⟩ := hrun
  have hconstant (s : LoraTx × Slots) (a : Action) (h : intervalHalfSecond s a = true) :
      Constant 500000 s.1 a := by
    intro w' reports hstep hmoves
    simp only [intervalHalfSecond, hstep, Option.all_some, Bool.or_eq_true, decide_eq_true_eq] at h
    exact h.resolve_left hmoves
  have run' := run.of_checked.mono hconstant
  simp only [fourMissed, Bool.and_eq_true, decide_eq_true_eq] at hmissed
  obtain ⟨⟨hvalid, hfour⟩, -⟩ := hmissed
  obtain ⟨haccounted, -⟩ := deadlines_on_schedule (.start entered_starts) rfl
  obtain ⟨-, -, hnext⟩ := haccounted _ _ _ _ run' hvalid (by rw [Unsaturated, hfour]; decide)
  have hfirst : entered.loop.next_tx_at = 500000 := rfl
  have hnone : missed entered = 0 := rfl
  rw [hfour, hfirst, hnone] at hnext
  exact ⟨past, w, slots, run', hnext⟩

end Comboard.Deadline
