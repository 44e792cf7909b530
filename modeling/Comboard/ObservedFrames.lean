import Comboard.CanSteps
import Comboard.Lib.History

/-!
# What the CAN statistics count

Every counter is the count of the whole history, until it stops at its greatest value.
-/

namespace Comboard.ObservedFrames

open Lib CanCommunicationTask CanSteps CanObservedStats

/-! ## One frame -/

/-- The value is a count that stops at its greatest value. -/
def Saturates (value : UInt32) (count : ℕ) : Prop := value.toNat = min count 0xffffffff

theorem Saturates.succ {value : UInt32} {count : ℕ} (h : Saturates value count) :
    Saturates (saturating_add value 1) (count + 1) := by
  unfold Saturates at *
  have hone : (1 : UInt32).toNat = 1 := rfl
  rw [saturating_add_toNat, h, hone]
  omega

theorem observed_ids_distinct (index index' : Fin OBSERVED_COUNT)
    (h : OBSERVED_CAN_IDS.get index = OBSERVED_CAN_IDS.get index') : index = index' := by
  revert index index'
  decide

/-- Only the cell of the identifier changes. -/
theorem observe_other (stats : CanObservedStats) {identifier : UInt16} (data : List UInt8)
    {index : Fin OBSERVED_COUNT} (h : OBSERVED_CAN_IDS.get index ≠ identifier) :
    (stats.observe identifier data).counts.get index = stats.counts.get index ∧
      (stats.observe identifier data).sequence_gaps.get index = stats.sequence_gaps.get index ∧
        (stats.observe identifier data).last_sequences.get index = stats.last_sequences.get index := by
  unfold CanObservedStats.observe
  split <;> rename_i hposition
  · exact ⟨rfl, rfl, rfl⟩
  · rename_i index'
    have hne : index' ≠ index := fun heq => h (heq ▸ (position_eq_some observed_ids_distinct).mp hposition)
    unfold observe_sequence
    split
    · exact ⟨by simp [get_set, hne], rfl, rfl⟩
    · dsimp only
      split <;> simp [get_set, hne]

theorem observe_own (stats : CanObservedStats) {identifier : UInt16} (data : List UInt8)
    {index : Fin OBSERVED_COUNT} (h : OBSERVED_CAN_IDS.get index = identifier) :
    (stats.observe identifier data).counts.get index = saturating_add (stats.counts.get index) 1 ∧
      (stats.observe identifier data).sequence_gaps.get index =
        (if (observed_sequence identifier data).any
            (sequence_gap (stats.last_sequences.get index)) then
          saturating_add (stats.sequence_gaps.get index) 1
        else stats.sequence_gaps.get index) ∧
        (stats.observe identifier data).last_sequences.get index =
          (observed_sequence identifier data).or (stats.last_sequences.get index) := by
  unfold CanObservedStats.observe
  rw [(position_eq_some observed_ids_distinct).mpr h]
  unfold observe_sequence
  dsimp only
  split <;> rename_i hsequence
  · simp [get_set, hsequence]
  · rw [hsequence]
    dsimp only
    split <;> rename_i hgap <;> simp [get_set, hgap]

/-! ## A history of frames -/

/-- The sequence numbers of an identifier. -/
def sequences (id : UInt16) (frames : List (UInt16 × List UInt8)) : List UInt8 :=
  frames.filterMap fun (identifier, data) =>
    if identifier = id then observed_sequence identifier data else none

def count (id : UInt16) (frames : List (UInt16 × List UInt8)) : ℕ := frames.countP (·.1 = id)

/-- How often the next number is not the successor. -/
def gaps (id : UInt16) (frames : List (UInt16 × List UInt8)) : ℕ :=
  neighbours (fun previous current => current ≠ previous + 1) (sequences id frames)

/-- What the counters say of one identifier. -/
structure Tells (stats : CanObservedStats) (index : Fin OBSERVED_COUNT)
    (frames : List (UInt16 × List UInt8)) : Prop where
  counts : Saturates (stats.counts.get index) (count (OBSERVED_CAN_IDS.get index) frames)
  gaps : Saturates (stats.sequence_gaps.get index) (gaps (OBSERVED_CAN_IDS.get index) frames)
  last : stats.last_sequences.get index =
    (sequences (OBSERVED_CAN_IDS.get index) frames).getLast?

theorem tells_new (index : Fin OBSERVED_COUNT) : Tells CanObservedStats.new index [] where
  counts := by unfold Saturates; revert index; decide
  gaps := by unfold Saturates; revert index; decide
  last := by revert index; decide

theorem sequences_concat (id : UInt16) (frames : List (UInt16 × List UInt8)) (identifier : UInt16)
    (data : List UInt8) :
    sequences id (frames ++ [(identifier, data)]) = sequences id frames ++
      (if identifier = id then observed_sequence identifier data else none).toList := by
  unfold sequences
  rw [List.filterMap_append]
  cases h : (if identifier = id then observed_sequence identifier data else none) <;> simp [h]

theorem count_concat (id : UInt16) (frames : List (UInt16 × List UInt8)) (identifier : UInt16)
    (data : List UInt8) :
    count id (frames ++ [(identifier, data)]) =
      count id frames + if identifier = id then 1 else 0 := by
  unfold count
  by_cases h : identifier = id <;> simp [h]

theorem gaps_of_sequences {id : UInt16} {frames : List (UInt16 × List UInt8)}
    {frame : UInt16 × List UInt8} {sequence : Option UInt8}
    (h : sequences id (frames ++ [frame]) = sequences id frames ++ sequence.toList) :
    gaps id (frames ++ [frame]) = gaps id frames +
      if sequence.any (sequence_gap (sequences id frames).getLast?) then 1 else 0 := by
  unfold gaps
  rw [h]
  cases sequence with
  | none => simp
  | some sequence =>
    have hgap : sequence_gap (sequences id frames).getLast? sequence =
        (sequences id frames).getLast?.any fun previous => sequence ≠ previous + 1 := by
      cases (sequences id frames).getLast? <;> rfl
    rw [Option.toList_some, neighbours_concat, Option.any_some, hgap]

/-- One frame more. -/
theorem Tells.observe {stats : CanObservedStats} {index : Fin OBSERVED_COUNT}
    {frames : List (UInt16 × List UInt8)} (h : Tells stats index frames) (identifier : UInt16)
    (data : List UInt8) :
    Tells (stats.observe identifier data) index (frames ++ [(identifier, data)]) := by
  by_cases hid : OBSERVED_CAN_IDS.get index = identifier
  · obtain ⟨hcounts, hgaps, hlast⟩ := observe_own stats data hid
    have hsequences : sequences (OBSERVED_CAN_IDS.get index) (frames ++ [(identifier, data)]) =
        sequences (OBSERVED_CAN_IDS.get index) frames ++ (observed_sequence identifier data).toList := by
      rw [sequences_concat, if_pos hid.symm]
    refine ⟨?_, ?_, ?_⟩
    · rw [hcounts, count_concat, if_pos hid.symm]
      exact h.counts.succ
    · rw [hgaps, h.last, gaps_of_sequences hsequences]
      split
      · exact h.gaps.succ
      · exact h.gaps
    · rw [hlast, h.last, hsequences]
      cases observed_sequence identifier data <;> simp
  · obtain ⟨hcounts, hgaps, hlast⟩ := observe_other stats data hid
    have hother : ¬ identifier = OBSERVED_CAN_IDS.get index := fun h => hid h.symm
    have hsequences : sequences (OBSERVED_CAN_IDS.get index) (frames ++ [(identifier, data)]) =
        sequences (OBSERVED_CAN_IDS.get index) frames := by
      rw [sequences_concat, if_neg hother]
      exact List.append_nil _
    refine ⟨?_, ?_, ?_⟩
    · rw [hcounts, count_concat, if_neg hother]
      exact h.counts
    · rw [hgaps]
      unfold ObservedFrames.gaps
      rw [hsequences]
      exact h.gaps
    · rw [hlast, hsequences]
      exact h.last

/-! ## Every run -/

/-- The counters tell of all the frames with a standard identifier that came. -/
def TellsAll (past : List CanReport) (w : CanCommunicationTask) : Prop :=
  ∀ index, Tells w.observed index (past.filterMap standard)

theorem TellsAll.same {past new : List CanReport} {w v : CanCommunicationTask}
    (h : TellsAll past w) (hnew : new.filterMap standard = []) (hobserved : v.observed = w.observed) :
    TellsAll (past ++ new) v := by
  intro index
  rw [List.filterMap_append, hnew, List.append_nil, hobserved]
  exact h index

theorem TellsAll.told {past : List CanReport} {w v : CanCommunicationTask} {r : CanReport}
    (h : TellsAll past w) (hobserved : v.observed = observe_standard w.observed (standard r)) :
    TellsAll (past ++ [r]) v := by
  intro index
  rw [List.filterMap_append, hobserved]
  rcases hr : standard r with _ | ⟨identifier, data⟩
  · simpa [hr, observe_standard] using h index
  · simpa [hr, observe_standard] using (h index).observe identifier data

theorem TellsAll.turn {past reports : List CanReport} {w v : CanCommunicationTask}
    (h : TellsAll past w) (turn : Turn w v reports) : TellsAll (past ++ reports) v := by
  cases turn with
  | beside hreports hheld =>
    refine h.same (filterMap_aside (fun r hr => ?_) hreports) (congrArg Held.observed hheld)
    cases r <;> first | rfl | simp [aside] at hr
  | told hcan hr hheld =>
    rw [List.append_cons]
    exact TellsAll.same (w := v) (h.told (congrArg Held.observed hheld)) (filterMap_fed rfl _ _) rfl
  | locked hcan hlocked hheld => exact h.told (congrArg Held.observed hheld)
  | unlocked hcan hheld => exact h.same (filterMap_fed rfl _ _) (congrArg Held.observed hheld)

theorem tells_all : Invariant TellsAll where
  start _ := tells_new
  arm h arm := h.turn arm.turn
  publish h _ := h.same rfl rfl

/-- For each observed identifier the counts are those of the whole history: how many frames came,
and how often a sequence number was not the successor of the one before. -/
theorem observed_counts {past : List CanReport} {w : CanCommunicationTask}
    (run : Machine.Run machine Machine.anyStep past w) (index : Fin OBSERVED_COUNT) :
    (w.observed.counts.get index).toNat =
        min (count (OBSERVED_CAN_IDS.get index) (past.filterMap standard)) 0xffffffff ∧
      (w.observed.sequence_gaps.get index).toNat =
        min (gaps (OBSERVED_CAN_IDS.get index) (past.filterMap standard)) 0xffffffff :=
  ⟨(tells_all.run run index).counts, (tells_all.run run index).gaps⟩

/-- The second number is the successor of the first, and the third is not. -/
def skipping : List Action :=
  [.received (control_frame 255) 100 calm, .received (control_frame 0) 110 calm,
    .received (control_frame 2) 120 calm]

theorem observed_counts_skipping : ∃ past w, Machine.Run machine Machine.anyStep past w ∧
    (w.observed.counts.get 4).toNat = 3 ∧ (w.observed.sequence_gaps.get 4).toNat = 1 := by
  obtain ⟨past, w, run, hframes⟩ : ∃ past w, Machine.Run machine Machine.anyStep past w ∧
      past.filterMap standard = [(0x101, [255, 0, 0, 0]), (0x101, [0, 0, 0, 0]), (0x101, [2, 0, 0, 0])] :=
    Machine.exists_run (fun (_ : CanCommunicationTask) past => past.filterMap standard =
      [(0x101, [255, 0, 0, 0]), (0x101, [0, 0, 0, 0]), (0x101, [2, 0, 0, 0])])
      skipping ⟨calm.registers, rfl⟩ (fun _ _ _ => trivial) (by decide +kernel)
  obtain ⟨hcounts, hgaps⟩ := observed_counts run 4
  rw [hframes] at hcounts hgaps
  exact ⟨past, w, run, hcounts, hgaps⟩

end Comboard.ObservedFrames
