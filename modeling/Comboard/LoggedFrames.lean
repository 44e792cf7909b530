import Comboard.Code.CanLog
import Comboard.RawCanLog
import Comboard.SdLog

/-!
# The raw log, from the bus to the card

What stands in the file is what came over the bus.
-/

namespace Comboard.LoggedFrames

open Lib CanCommunicationTask CanSteps RawCanLog SdLog

/-! ## The rows tell the records -/

theorem splitOn_line (record : RawCanRecord) :
    ([44].intercalate (can_fields record)).splitOn 44 = can_fields record := by
  refine List.splitOn_intercalate 44 (fun field hfield hcomma => ?_) (can_fields_ne_nil record)
  exact absurd (mem_can_fields hfield hcomma).1 (by decide)

theorem hex_bytes_injective {data data' : List UInt8}
    (h : (data.map fun byte => to_radix 16 2 byte.toNat) =
      data'.map fun byte => to_radix 16 2 byte.toNat) : data = data' := by
  have hbyte : Function.Injective fun byte : UInt8 => to_radix 16 2 byte.toNat := by
    intro a b hab
    exact UInt8.toNat_inj.mp (to_radix_injective (by decide) (by decide) (by decide) hab)
  exact List.map_injective_iff.mpr hbyte h

/-- No two records have the same fields. -/
theorem can_fields_injective : Function.Injective can_fields := by
  intro r r' h
  simp only [can_fields, display, List.cons_append, List.nil_append, List.cons.injEq] at h
  obtain ⟨htime, hid, hlength, hdata⟩ := h
  have htime := to_radix_injective (by decide) (by decide) (by decide) htime
  have hid := to_radix_injective (by decide) (by decide) (by decide) hid
  have hlength := to_radix_injective (by decide) (by decide) (by decide) hlength
  have hdata := hex_bytes_injective hdata
  cases r
  cases r'
  simp only [RawCanRecord.mk.injEq]
  exact ⟨UInt64.toNat_inj.mp htime, UInt16.toNat_inj.mp hid, UInt8.toNat_inj.mp hlength,
    Vector.toList_inj.mp hdata⟩

/-- The text of a log tells its records. -/
theorem rows_injective {records records' : List RawCanRecord}
    (h : records.flatMap can_text = records'.flatMap can_text) : records = records' := by
  have hlines := congrArg lines h
  rw [lines_rows, lines_rows] at hlines
  have hline : Function.Injective fun record => [44].intercalate (can_fields record) := by
    intro r r' hr
    have hfields := congrArg (List.splitOn 44) hr
    dsimp only at hfields
    rw [splitOn_line, splitOn_line] at hfields
    exact can_fields_injective hfields
  exact List.map_injective_iff.mpr hline hlines

/-! ## What the two tasks see -/

def can_reports : CanLogReport → List CanReport
  | .can report => [report]
  | .sd record _ => [.raw_can_log_received record]

def sd_reports : CanLogReport → List (RawCanRecord × Bool)
  | .can _ => []
  | .sd record logging_requested => [(record, logging_requested)]

/-- The records of the frames that came. -/
def came (past : List CanLogReport) : List RawCanRecord := records (past.flatMap can_reports)

/-- What was taken while logging was requested. -/
def logged (past : List CanLogReport) : List RawCanRecord := requested (past.flatMap sd_reports)

/-! ## Steps -/

theorem step_can {w w' : CanLog} {action : CanCommunicationTask.Action} {new : List CanLogReport}
    (h : w.step (.can action) = some (w', new)) :
    action ≠ .raw_can_log_receive ∧ w'.sd = w.sd ∧
      ∃ reports, w.can.step action = some (w'.can, reports) ∧ new = reports.map .can := by
  simp only [CanLog.step, Option.ite_none_left_eq_some, Option.map_eq_some_iff] at h
  obtain ⟨hne, ⟨can, reports⟩, hstep, heq⟩ := h
  obtain ⟨rfl, rfl⟩ := Prod.mk.inj heq
  exact ⟨hne, rfl, reports, hstep, rfl⟩

/-- A turn begins with the oldest record, or leaves the CAN task alone. -/
theorem step_sd {w w' : CanLog} {turn : SdTurn} {new : List CanLogReport}
    (h : w.step (.sd turn) = some (w', new)) :
    w'.sd = w.sd.turn turn ∧ SdWriter.received turn.event = new.flatMap sd_reports ∧
      (w'.can = w.can ∧ new = [] ∨
        ∃ record logging_requested, new = [.sd record logging_requested] ∧
          w.can.step .raw_can_log_receive = some (w'.can, [.raw_can_log_received record])) := by
  simp only [CanLog.step] at h
  split at h <;> rename_i hevent
  · split at h <;> rename_i hreceive
    · rename_i record logging_requested received channel
      simp only [Option.ite_none_right_eq_some] at h
      obtain ⟨rfl, h⟩ := h
      obtain ⟨rfl, rfl⟩ := Prod.mk.inj (Option.some.inj h)
      refine ⟨rfl, by rw [hevent]; rfl, .inr ⟨_, _, rfl, ?_⟩⟩
      simp [CanCommunicationTask.step, hreceive]
    · simp at h
  all_goals
    obtain ⟨rfl, rfl⟩ := Prod.mk.inj (Option.some.inj h)
    exact ⟨rfl, by rw [hevent]; rfl, .inl ⟨rfl, rfl⟩⟩

/-- Only a receipt takes a record. -/
theorem recover_taken (w : CanCommunicationTask) (e : Option CanRuntimeEvent) :
    taken (w.recover e).2 = [] := by
  rw [recover_eq]
  exact filterMap_fed rfl _ _

theorem finished_taken (r : CanCommunicationTask × List CanReport) (reading : CanReading) :
    taken (finished r reading).2 = taken r.2 := by
  unfold finished finish
  dsimp only
  split
  · simp [publish, taken, take]
  · simp

theorem transmitted_taken (w : CanCommunicationTask) (message : CanTxMessage)
    (transmission : Transmission) : taken (w.step_transmitted message transmission).2 = [] := by
  unfold step_transmitted
  split
  · rfl
  · unfold transmit_failed
    dsimp only
    split
    · rfl
    · exact recover_taken _ _

theorem step_taken {w w' : CanCommunicationTask} {action : CanCommunicationTask.Action}
    {new : List CanReport} (hne : action ≠ .raw_can_log_receive)
    (h : w.step action = some (w', new)) : taken new = [] := by
  have hfinished {r : CanCommunicationTask × List CanReport} {reading : CanReading}
      (hr : taken r.2 = []) (heq : finished r reading = (w', new)) : taken new = [] := by
    have hsnd := finished_taken r reading
    rwa [heq, hr] at hsnd
  cases action with
  | path action =>
    simp only [CanCommunicationTask.step, Option.ite_none_right_eq_some,
      Option.map_eq_some_iff] at h
    obtain ⟨-, _, -, heq⟩ := h
    obtain ⟨-, rfl⟩ := Prod.mk.inj heq
    rfl
  | transmitted transmission reading =>
    simp only [CanCommunicationTask.step] at h
    split at h
    · exact hfinished (transmitted_taken _ _ _) (Option.some.inj h)
    · simp at h
  | lock reading =>
    obtain ⟨_, -, heq⟩ := Option.map_eq_some_iff.mp h
    exact hfinished (recover_taken _ _) heq
  | received frame received_at_ms reading =>
    simp only [CanCommunicationTask.step, Option.ite_none_right_eq_some] at h
    exact hfinished rfl (Option.some.inj h.2)
  | receive_error error reading =>
    simp only [CanCommunicationTask.step, Option.ite_none_right_eq_some] at h
    have hnone : taken (w.step_receive_error error).2 = [] := recover_taken _ _
    exact hfinished hnone (Option.some.inj h.2)
  | health_tick registers reading =>
    simp only [CanCommunicationTask.step, Option.ite_none_right_eq_some] at h
    have hnone : taken (w.step_health_tick registers).2 = [] := recover_taken _ _
    exact hfinished hnone (Option.some.inj h.2)
  | raw_can_log_receive => exact absurd rfl hne
  | power_tick now_ms =>
    obtain ⟨-, rfl⟩ := Prod.mk.inj (Option.some.inj h)
    rfl
  | clear_event_flags flags revision =>
    obtain ⟨-, rfl⟩ := Prod.mk.inj (Option.some.inj h)
    rfl

/-! ## The two runs -/

variable {ok : CanLog → CanLog.Action → Prop}

theorem can_run {past : List CanLogReport} {w : CanLog} (run : Machine.Run CanLog.machine ok past w) :
    Machine.Run CanCommunicationTask.machine Machine.anyStep (past.flatMap can_reports) w.can := by
  refine Machine.Run.simulates (m := CanLog.machine) CanLog.can can_reports (fun _ h => h.1)
    (fun past w action w' new _ _ h => ?_) run
  cases action with
  | can action =>
    obtain ⟨-, -, reports, hstep, rfl⟩ := step_can h
    exact .inr ⟨action, trivial, by rwa [Machine.flatMap_passed_on CanLogReport.can can_reports]⟩
  | sd turn =>
    rcases (step_sd h).2.2 with ⟨hcan, rfl⟩ | ⟨record, logging_requested, rfl, hstep⟩
    · exact .inl ⟨hcan, rfl⟩
    · exact .inr ⟨.raw_can_log_receive, trivial, hstep⟩

/-- The SD task has taken what was taken. -/
theorem taken_eq {past : List CanLogReport} {w : CanLog} (run : Machine.Run CanLog.machine ok past w) :
    taken (past.flatMap can_reports) = (past.flatMap sd_reports).map Prod.fst := by
  refine run.invariant (I := fun past _ => taken (past.flatMap can_reports) =
    (past.flatMap sd_reports).map Prod.fst) (fun _ _ => rfl) fun past w action w' new _ ih _ h => ?_
  rw [List.flatMap_append, List.flatMap_append, taken_append, ih, List.map_append]
  congr 1
  cases action with
  | can action =>
    obtain ⟨hne, -, reports, hstep, rfl⟩ := step_can h
    rw [Machine.flatMap_passed_on CanLogReport.can can_reports,
      Machine.flatMap_passed_over CanLogReport.can sd_reports]
    exact step_taken hne hstep
  | sd turn =>
    rcases (step_sd h).2.2 with ⟨-, rfl⟩ | ⟨record, logging_requested, rfl, -⟩
    · rfl
    · rfl

theorem raw_standard (frame : CanFrame) {identifier : UInt16} (h : frame.id = .Standard identifier)
    (received_at_ms : UInt64) : Standard (frame.raw identifier received_at_ms) where
  identifier := frame.standard identifier h
  data_length := by
    have hlength : (UInt8.ofNat frame.data.length).toNat = frame.data.length :=
      UInt8.toNat_ofNat_of_lt' (Nat.lt_of_le_of_lt frame.fits (by decide))
    exact UInt8.le_iff_toNat_le.mpr (hlength.trans_le frame.fits)

theorem records_standard (past : List CanReport) : ∀ record ∈ records past, Standard record := by
  intro raw hraw
  obtain ⟨r, -, hr⟩ := List.mem_filterMap.mp hraw
  unfold record at hr
  split at hr
  · obtain rfl := Option.some.inj hr
    exact raw_standard _ rfl _
  · simp at hr

/-- Every write gets all its bytes into the file. -/
def Written (_ : CanLog) : CanLog.Action → Prop
  | .can _ => True
  | .sd turn => turn.can.room.lost = 0 ∧ turn.can.drain.lost = 0

instance : ∀ w action, Decidable (Written w action)
  | _, .can _ => inferInstanceAs (Decidable True)
  | _, .sd _ => inferInstanceAs (Decidable (_ ∧ _))

theorem sd_run {past : List CanLogReport} {w : CanLog}
    (run : Machine.Run CanLog.machine Written past w) :
    Machine.Run SdWriter.machine (fun _ t => Whole t) (past.flatMap sd_reports) w.sd := by
  refine Machine.Run.simulates (m := CanLog.machine) CanLog.sd sd_reports (fun _ h => h.2)
    (fun past w action w' new run' hok h => ?_) run
  cases action with
  | can action =>
    obtain ⟨-, hsd, reports, -, rfl⟩ := step_can h
    exact .inl ⟨hsd, Machine.flatMap_passed_over CanLogReport.can sd_reports⟩
  | sd turn =>
    obtain ⟨hsd, hreceived, hcan⟩ := step_sd h
    refine .inr ⟨turn, ⟨?_, hok.1, hok.2⟩, by rw [hsd, ← hreceived]; rfl⟩
    rw [hreceived]
    rcases hcan with ⟨-, rfl⟩ | ⟨record, logging_requested, rfl, hstep⟩
    · nofun
    · have hnext : Machine.Run CanCommunicationTask.machine Machine.anyStep
          (past.flatMap can_reports ++ [.raw_can_log_received record]) w'.can :=
        .step (a := .raw_can_log_receive) (can_run run') trivial hstep
      have htaken : record ∈ taken (past.flatMap can_reports ++ [.raw_can_log_received record]) := by
        simp [taken, take]
      have hmem : record ∈ records (past.flatMap can_reports) := by
        have horder := (raw_can_log hnext).1.subset (List.mem_append_left _ htaken)
        simpa [records, RawCanLog.record] using horder
      simpa [sd_reports] using records_standard _ record hmem

/-! ## The log -/

/-- `CAN.CSV` with what waits in its buffer holds a row for each record that was taken while logging was
requested. These are frames that came, in their order, and the text tells them apart. While the writer
keeps up and logging is requested nothing is missing. -/
theorem log_of_frames {past : List CanLogReport} {w : CanLog}
    (run : Machine.Run CanLog.machine Written past w) (hok : w.sd.sd_has_error = false) :
    w.sd.can.written ++ w.sd.can.pending = (logged past).flatMap can_text ∧
      (∀ rows, rows.flatMap can_text = w.sd.can.written ++ w.sd.can.pending → rows = logged past) ∧
      (read_lines [] false (w.sd.can.written ++ w.sd.can.pending)).map process_line =
        (logged past).map (fun record => .ok (record.received_at_ms, record.identifier)) ∧
      (logged past).Sublist (came past) ∧
      w.can.raw_can_log_dropped_count = .ofNat ((came past).length -
        ((past.flatMap sd_reports).length + w.can.raw_can_log_channel.items.length)) ∧
      (KeepsUp (past.flatMap can_reports) →
        (∀ report ∈ past.flatMap sd_reports, report.2 = true) →
          logged past ++ w.can.raw_can_log_channel.items = came past) := by
  obtain ⟨hstream, -, -, -, -, hread⟩ := log_complete_and_readable (sd_run run) hok
  obtain ⟨horder, hdropped, hwhole⟩ := raw_can_log (can_run run)
  rw [taken_eq run] at horder hdropped hwhole
  have hlogged : (logged past).Sublist ((past.flatMap sd_reports).map Prod.fst) :=
    List.filter_sublist.map Prod.fst
  refine ⟨hstream, fun rows hrows => rows_injective (hrows.trans hstream), hread,
    hlogged.trans ((List.sublist_append_left _ _).trans horder), ?_, fun keeps hrequested => ?_⟩
  · simpa [came] using hdropped
  · have hall : logged past = (past.flatMap sd_reports).map Prod.fst := by
      unfold logged requested
      rw [List.filter_eq_self.mpr hrequested]
    rw [hall]
    exact hwhole keeps

/-- A frame that is logged, and one that waits. -/
def two_frames : List CanLog.Action :=
  [.can (.received kinematics_frame 100 calm),
    .sd (succeeding (.record (kinematics_frame.raw 0x100 100) true) true), .sd (succeeding .tick true),
    .can (.received kinematics_frame 110 calm)]

theorem log_of_frames_two : ∃ past w, Machine.Run CanLog.machine Written past w ∧
    w.sd.sd_has_error = false ∧ (came past).length = 2 ∧
      (read_lines [] false (w.sd.can.written ++ w.sd.can.pending)).map process_line =
        [.ok (100, 0x100)] ∧
      w.sd.can.written = can_text (kinematics_frame.raw 0x100 100) := by
  obtain ⟨past, w, run, hok, hcame, hpending, hlogged⟩ :
      ∃ past w, Machine.Run CanLog.machine Written past w ∧ w.sd.sd_has_error = false ∧
        (came past).length = 2 ∧ w.sd.can.pending = [] ∧
          logged past = [kinematics_frame.raw 0x100 100] :=
    Machine.exists_checked_run (fun (w : CanLog) past => w.sd.sd_has_error = false ∧
      (came past).length = 2 ∧ w.sd.can.pending = [] ∧
        logged past = [kinematics_frame.raw 0x100 100]) (s := ⟨.start calm.registers, .new⟩) two_frames
      ⟨⟨calm.registers, rfl⟩, rfl⟩ (by decide +kernel)
  obtain ⟨hstream, -, hread, -⟩ := log_of_frames run hok
  rw [hlogged] at hstream hread
  refine ⟨past, w, run, hok, hcame, hread, ?_⟩
  rw [hpending, List.append_nil] at hstream
  exact hstream.trans (List.append_nil _)

end Comboard.LoggedFrames
