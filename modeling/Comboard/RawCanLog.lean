import Comboard.CanSteps
import Mathlib.Data.List.Infix

/-!
# What reaches the raw log

Every frame with a standard identifier is offered to the task that writes the log. What does not get
there is counted.
-/

namespace Comboard.RawCanLog

open Lib CanCommunicationTask CanSteps

/-- The record of a frame that came. -/
def record : CanReport → Option RawCanRecord
  | .received { id := .Standard identifier, data, standard, fits } received_at_ms =>
    some (CanFrame.raw ⟨.Standard identifier, data, standard, fits⟩ identifier received_at_ms)
  | _ => none

def take : CanReport → Option RawCanRecord
  | .raw_can_log_received record => some record
  | _ => none

def records (past : List CanReport) : List RawCanRecord := past.filterMap record

def taken (past : List CanReport) : List RawCanRecord := past.filterMap take

@[simp]
theorem records_append (past new : List CanReport) :
    records (past ++ new) = records past ++ records new := List.filterMap_append

@[simp]
theorem taken_append (past new : List CanReport) :
    taken (past ++ new) = taken past ++ taken new := List.filterMap_append

/-! ## An arm -/

/-- The channel, and the count of what it had no room for. -/
structure Cells where
  channel : Channel RawCanRecord 32
  dropped : UInt32

def cells (w : CanCommunicationTask) : Cells where
  channel := w.raw_can_log_channel
  dropped := w.raw_can_log_dropped_count

/-- What an arm does to them. -/
inductive Logs (c d : Cells) (reports : List CanReport) : Prop where
  | same (hrecords : records reports = []) (htaken : taken reports = []) (hcells : d = c)
  | sent {raw : RawCanRecord} (hrecords : records reports = [raw]) (htaken : taken reports = [])
      (hroom : c.channel.items.length < 32) (hchannel : d.channel.items = c.channel.items ++ [raw])
      (hdropped : d.dropped = c.dropped)
  | full {raw : RawCanRecord} (hrecords : records reports = [raw]) (htaken : taken reports = [])
      (hfull : c.channel.items.length = 32) (hchannel : d.channel = c.channel)
      (hdropped : d.dropped = c.dropped + 1)
  | taken {raw : RawCanRecord} (hrecords : records reports = []) (htaken : taken reports = [raw])
      (hchannel : c.channel.items = raw :: d.channel.items) (hdropped : d.dropped = c.dropped)

theorem log_raw_logs (w : CanCommunicationTask) {reports : List CanReport} {raw : RawCanRecord}
    (hrecords : records reports = [raw]) (htaken : taken reports = []) :
    Logs (cells w) (cells (w.log_raw raw)) reports := by
  unfold log_raw
  split <;> rename_i h
  · have hroom : w.raw_can_log_channel.items.length < 32 := by
      unfold Channel.try_send at h
      split at h
      · assumption
      · simp at h
    exact .sent hrecords htaken hroom (Channel.try_send_some h) rfl
  · have hfull : 32 ≤ w.raw_can_log_channel.items.length := by
      simpa [Channel.is_full] using Channel.try_send_eq_none.mp h
    exact .full hrecords htaken (Nat.le_antisymm w.raw_can_log_channel.fits hfull) rfl rfl

theorem handle_standard_cells (w : CanCommunicationTask) {frame : CanFrame} {identifier : UInt16}
    (hid : frame.id = .Standard identifier) (received_at_ms : UInt64) :
    cells (w.handle_received_frame frame received_at_ms) =
      cells (w.log_raw (frame.raw identifier received_at_ms)) := by
  unfold handle_received_frame
  rw [hid]
  dsimp only
  generalize w.log_raw (frame.raw identifier received_at_ms) = v
  split
  · unfold receive_mode
    split <;> rfl
  · split
    · unfold receive_device_health
      split <;> rfl
    · unfold receive_message
      split <;> rfl

theorem handled_logs (w : CanCommunicationTask) {c : Cells} (hc : cells w = c) (frame : CanFrame)
    (received_at_ms : UInt64) :
    Logs c (cells (w.handle_received_frame frame received_at_ms))
      [.received frame received_at_ms] := by
  subst hc
  rcases frame with ⟨id, data, standard, fits⟩
  cases id with
  | Extended => exact .same rfl rfl rfl
  | Standard identifier =>
    rw [handle_standard_cells w (Eq.refl (CanId.Standard identifier))]
    exact log_raw_logs w rfl rfl

theorem received_logs (w : CanCommunicationTask) (frame : CanFrame) (received_at_ms : UInt64) :
    Logs (cells w) (cells (w.step_received frame received_at_ms))
      [.received frame received_at_ms] := by
  refine handled_logs _ ?_ frame received_at_ms
  dsimp only [cells]
  unfold observe
  split <;> rfl

theorem transmitted_cells (w : CanCommunicationTask) (message : CanTxMessage)
    (transmission : Transmission) :
    Logs (cells w) (cells (w.step_transmitted message transmission).1)
      (w.step_transmitted message transmission).2 := by
  unfold step_transmitted
  split
  · exact .same rfl rfl rfl
  · unfold transmit_failed
    dsimp only
    split
    · exact .same rfl rfl rfl
    · rw [recover_eq]
      exact .same (filterMap_fed rfl _ _) (filterMap_fed rfl _ _) rfl

theorem Arm.logs {w v : CanCommunicationTask} {reports : List CanReport} (h : Arm w v reports) :
    Logs (cells w) (cells v) reports := by
  cases h with
  | path | power_tick | clear_event_flags => exact .same rfl rfl rfl
  | lock =>
    rw [recover_eq]
    exact .same (filterMap_fed rfl _ _) (filterMap_fed rfl _ _) rfl
  | transmitted => exact transmitted_cells w _ _
  | received => exact received_logs w _ _
  | receive_error | health_tick =>
    simp only [step_receive_error, step_health_tick, recover_eq]
    exact .same (filterMap_fed rfl _ _) (filterMap_fed rfl _ _) rfl
  | raw_can_log_receive hreceive => exact .taken rfl rfl (Channel.try_receive_some hreceive) rfl

/-! ## Every run -/

/-- What was taken and what waits is what came, in its order, and what is missing is counted. -/
structure Kept (past : List CanReport) (w : CanCommunicationTask) : Prop where
  order : (taken past ++ w.raw_can_log_channel.items).Sublist (records past)
  dropped : w.raw_can_log_dropped_count =
    .ofNat ((records past).length - (taken past ++ w.raw_can_log_channel.items).length)

theorem Kept.logs {past reports : List CanReport} {w v : CanCommunicationTask} (h : Kept past w)
    (logs : Logs (cells w) (cells v) reports) : Kept (past ++ reports) v := by
  have horder := h.order
  have hdropped := h.dropped
  have hlength := horder.length_le
  cases logs with
  | same hrecords htaken hcells =>
    have hchannel : v.raw_can_log_channel = w.raw_can_log_channel := congrArg Cells.channel hcells
    have hcount : v.raw_can_log_dropped_count = w.raw_can_log_dropped_count :=
      congrArg Cells.dropped hcells
    exact ⟨by simpa [hrecords, htaken, hchannel] using horder,
      by simpa [hrecords, htaken, hchannel, hcount] using hdropped⟩
  | @sent raw hrecords htaken hroom hchannel hcount =>
    have hchannel : v.raw_can_log_channel.items = w.raw_can_log_channel.items ++ [raw] := hchannel
    have hcount : v.raw_can_log_dropped_count = w.raw_can_log_dropped_count := hcount
    refine ⟨?_, ?_⟩
    · have hraw := horder.append (List.Sublist.refl [raw])
      simpa [hrecords, htaken, hchannel] using hraw
    · rw [hcount, hdropped]
      congr 1
      simp [hrecords, htaken, hchannel]
      omega
  | @full raw hrecords htaken hfull hchannel hcount =>
    have hchannel : v.raw_can_log_channel = w.raw_can_log_channel := hchannel
    have hcount : v.raw_can_log_dropped_count = w.raw_can_log_dropped_count + 1 := hcount
    refine ⟨?_, ?_⟩
    · have hraw := horder.trans (List.sublist_append_left (records past) [raw])
      simpa [hrecords, htaken, hchannel] using hraw
    · have hone : (1 : UInt32) = .ofNat 1 := rfl
      rw [hcount, hdropped, hone, ← UInt32.ofNat_add]
      congr 1
      simp [hrecords, htaken, hchannel] at hlength ⊢
      omega
  | @taken raw hrecords htaken hchannel hcount =>
    have hchannel : w.raw_can_log_channel.items = raw :: v.raw_can_log_channel.items := hchannel
    have hcount : v.raw_can_log_dropped_count = w.raw_can_log_dropped_count := hcount
    have hsame : taken (past ++ reports) ++ v.raw_can_log_channel.items =
        taken past ++ w.raw_can_log_channel.items := by
      rw [hchannel, taken_append, htaken]
      simp
    refine ⟨?_, ?_⟩
    · rw [hsame, records_append, hrecords, List.append_nil]
      exact horder
    · rw [hsame, hcount, hdropped]
      simp [hrecords]

theorem kept : Invariant Kept where
  start _ := ⟨.slnil, rfl⟩
  arm h arm := h.logs (Arm.logs arm)
  publish h _ := h.logs (.same rfl rfl rfl)

/-- The task that writes the log is never more than 32 records behind. -/
def KeepsUp (past : List CanReport) : Prop :=
  ∀ before after, past = before ++ after → (records before).length ≤ (taken before).length + 32

theorem KeepsUp.past {past new : List CanReport} (h : KeepsUp (past ++ new)) : KeepsUp past :=
  fun before after hpast => h before (after ++ new) (by rw [hpast, List.append_assoc])

theorem KeepsUp.now {past : List CanReport} (h : KeepsUp past) :
    (records past).length ≤ (taken past).length + 32 :=
  h past [] (List.append_nil past).symm

/-- Nothing is missing. -/
def Whole (past : List CanReport) (w : CanCommunicationTask) : Prop :=
  KeepsUp past → taken past ++ w.raw_can_log_channel.items = records past

theorem Whole.logs {past reports : List CanReport} {w v : CanCommunicationTask} (h : Whole past w)
    (logs : Logs (cells w) (cells v) reports) : Whole (past ++ reports) v := by
  intro keeps
  have hpast := h keeps.past
  have hnow := keeps.now
  cases logs with
  | same hrecords htaken hcells =>
    have hchannel : v.raw_can_log_channel = w.raw_can_log_channel := congrArg Cells.channel hcells
    simpa [hrecords, htaken, hchannel] using hpast
  | @sent raw hrecords htaken hroom hchannel =>
    have hchannel : v.raw_can_log_channel.items = w.raw_can_log_channel.items ++ [raw] := hchannel
    simp [hrecords, htaken, hchannel, ← hpast]
  | full hrecords htaken hfull =>
    have hfull : w.raw_can_log_channel.items.length = 32 := hfull
    simp [hrecords, htaken, ← hpast, hfull] at hnow
  | @taken raw hrecords htaken hchannel =>
    have hchannel : w.raw_can_log_channel.items = raw :: v.raw_can_log_channel.items := hchannel
    simp [hrecords, htaken, ← hpast, hchannel]

theorem whole : Invariant Whole where
  start _ _ := rfl
  arm h arm := h.logs (Arm.logs arm)
  publish h _ := h.logs (.same rfl rfl rfl)

/-- What the log is given is what came, in its order and unchanged. What is missing is counted, and
nothing is while the log is never more than 32 records behind. -/
theorem raw_can_log {past : List CanReport} {w : CanCommunicationTask}
    (run : Machine.Run machine Machine.anyStep past w) :
    (taken past ++ w.raw_can_log_channel.items).Sublist (records past) ∧
      w.raw_can_log_dropped_count =
        .ofNat ((records past).length - (taken past ++ w.raw_can_log_channel.items).length) ∧
      (KeepsUp past → taken past ++ w.raw_can_log_channel.items = records past) :=
  ⟨(kept.run run).order, (kept.run run).dropped, whole.run run⟩

def kinematics_frame : CanFrame :=
  (CanFrame.new 0x100 [0, 1, 2, 3, 4, 5, 6, 7]).get (Eq.refl true)

/-- One frame more than there is room for. -/
theorem raw_can_log_flooded : ∃ past w, Machine.Run machine Machine.anyStep past w ∧
    (records past).length = 33 ∧ w.raw_can_log_channel.items.length = 32 ∧
      w.raw_can_log_dropped_count = 1 := by
  obtain ⟨past, w, run, hrecords, htaken, hitems⟩ :
      ∃ past w, Machine.Run machine Machine.anyStep past w ∧ (records past).length = 33 ∧
        (taken past).length = 0 ∧ w.raw_can_log_channel.items.length = 32 :=
    Machine.exists_run (fun (w : CanCommunicationTask) past => (records past).length = 33 ∧
        (taken past).length = 0 ∧ w.raw_can_log_channel.items.length = 32)
      (List.replicate 33 (.received kinematics_frame 100 calm)) ⟨calm.registers, rfl⟩
      (fun _ _ _ => trivial) (by decide +kernel)
  refine ⟨past, w, run, hrecords, hitems, ?_⟩
  rw [(raw_can_log run).2.1, List.length_append, hrecords, htaken, hitems]
  rfl

end Comboard.RawCanLog
