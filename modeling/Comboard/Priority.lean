import Comboard.LoraSteps

/-!
# The reselection transmits the highest source

A Recovery envelope waits only while it is `eligible`: fairness allows it, and the gap behind the
last one is over.
-/

namespace Comboard.Priority

open Lib LoraTx LoraSteps

/-- The sources above one, the highest first. -/
def above : LoRaTxSource → List LoRaTxSource
  | .EmergencyResult => []
  | .CommandResult => [.EmergencyResult]
  | .GroundTimeRequest => [.EmergencyResult, .CommandResult]
  | .Recovery => [.EmergencyResult, .CommandResult, .GroundTimeRequest]
  | .Periodic => [.EmergencyResult, .CommandResult, .GroundTimeRequest, .Recovery]

theorem mem_above {source selected : LoRaTxSource} :
    source ∈ above selected ↔ is_higher_priority source selected = true := by
  cases source <;> cases selected <;> decide

/-- A reselection is a turn at the reading of its clock. -/
theorem prepared_turn {w w' : LoraTx} {now : Nat} {reports : List LoraReport}
    (h : machine.step w (.prepared now) = some (w', reports)) :
    Turn now w.shared w.loop.toHeldVars w.point w'.shared w'.loop.toHeldVars w'.point reports := by
  cases step_stepped h with
  | other hother => cases hother
  | turn hclock _ turn =>
    simp only [readings, read_clock] at hclock
    split at hclock
    · rwa [← Option.some.inj hclock] at turn
    · simp at hclock

/-- `e` is what the reselection of `selected` hands to `transmit_frame`. -/
structure Highest (s : LoraShared) (h : HeldVars) (it : Iteration) (selected : LoRaTxEnvelope)
    (now : Nat) (reports : List LoraReport) (e : LoRaTxEnvelope) : Prop where
  /-- Nothing of a higher source was waiting. -/
  none_higher : ∀ source, is_higher_priority source e.source = true →
    waiting s h it selected.source now source = []
  none_above : ∀ source ∈ above e.source, waiting s h it selected.source now source = []
  /-- The selected envelope is kept, or the oldest one of the highest source replaces it. -/
  replaced : (e = selected ∧ reports = []) ∨
    (.preempted selected (should_defer_preempted selected.source) ∈ reports ∧
      e.source ∈ above selected.source ∧ Replaces s h it selected.source now e.source e)

theorem turn_transmits {now : Nat} {s s' : LoraShared} {h h' : HeldVars} {point : LoraPoint}
    {it : Iteration} {e : LoRaTxEnvelope} {displaced : Bool} {choice : Choice}
    {reports : List LoraReport} (placed : Placed s h)
    (turn : Turn now s h point s' h' (.Transmit it e displaced choice) reports) :
    ∃ selected regular before, point = .Prepare it selected regular before ∧
      Highest s h it selected now reports e := by
  cases turn with
  | kept highest =>
    exact ⟨e, _, _, rfl, highest, fun source h => highest source (mem_above.mp h), .inl ⟨rfl, rfl⟩⟩
  | preempted replaces gets =>
    have hsource := gets.source placed
    subst hsource
    exact ⟨_, _, _, rfl, replaces.highest, fun source h => replaces.highest source (mem_above.mp h),
      .inr ⟨by simp, mem_above.mpr replaces.higher, replaces⟩⟩
  | transmitted _ hafter => split at hafter <;> simp at hafter

theorem transmits_highest_source {past reports : List LoraReport} {w w' : LoraTx}
    {it : Iteration} {e : LoRaTxEnvelope} {displaced : Bool} {choice : Choice} {now : Nat}
    (run : Machine.Run machine Machine.anyStep past w)
    (h : machine.step w (.prepared now) = some (w', reports))
    (hafter : w'.point = .Transmit it e displaced choice) :
    ∃ selected regular before, w.point = .Prepare it selected regular before ∧
      Highest w.shared w.loop.toHeldVars it selected now reports e :=
  turn_transmits (placed_run run) (hafter ▸ prepared_turn h)

/-! ## An emergency result replaces a prepared command result -/

def transmits (source : LoRaTxSource) : LoraPoint → Bool
  | .Transmit _ e _ _ => e.source = source
  | _ => false

/-- The next reselection transmits an envelope of the source. -/
def handsOver (source : LoRaTxSource) (w : LoraTx) : Bool :=
  (machine.step w (.prepared 0)).any fun r => transmits source r.1.point

def emergencyDuringPreparation : List Action :=
  [.queue_command_result (result 1).packet, .begin_iteration 0, .select 0 0 0,
    .queue_emergency_result (result 2)]

theorem transmits_highest_source_emergency :
    ∃ past w it selected reports e, Machine.Run machine Machine.anyStep past w ∧
      e.source = .EmergencyResult ∧ Highest w.shared w.loop.toHeldVars it selected 0 reports e := by
  have hrun : ∃ past w, Machine.Run machine Machine.anyStep past w ∧
      handsOver .EmergencyResult w :=
    Machine.exists_run (fun w _ => handsOver .EmergencyResult w) emergencyDuringPreparation
      entered_starts (fun _ _ _ => trivial) (by decide +kernel)
  obtain ⟨past, w, run, hprepared⟩ := hrun
  obtain ⟨⟨w', reports⟩, hstep, htransmits⟩ := (Option.any_eq_true _ _).mp hprepared
  cases hafter : w'.point with
  | Transmit it e displaced choice =>
    obtain ⟨selected, _, _, _, highest⟩ := transmits_highest_source run hstep hafter
    rw [hafter] at htransmits
    exact ⟨past, w, it, selected, reports, e, run, of_decide_eq_true htransmits, highest⟩
  | _ => simp [transmits, hafter] at htransmits

end Comboard.Priority
