import Comboard.Code.SdLogStats
import Comboard.Lib.History
import Comboard.LoggedFrames

/-!
# What the verifier counts, and when it says that the log is good

The statistics are those of the lines of the file, however it is read.
-/

namespace Comboard.LogVerdict

open Lib

/-! ## The loop reads lines -/

def lines_stats (stats : Stats) : Bool → List Line → Stats
  | _, [] => stats
  | first_line, line :: rest => lines_stats (stats.process first_line line) false rest

theorem lines_stats_concat (stats : Stats) (rows : List Line) (row : Line) :
    lines_stats stats false (rows ++ [row]) = (lines_stats stats false rows).process false row := by
  induction rows generalizing stats with
  | nil => rfl
  | cons first rows ih => exact ih _

theorem push_lines (bytes : List UInt8) (v : Verifier) :
    (bytes.foldl Verifier.push v).finish =
      lines_stats v.stats v.first_line (read_lines v.line v.overlong bytes) := by
  induction bytes generalizing v with
  | nil =>
    rw [List.foldl_nil, Verifier.finish, read_lines]
    cases last_line v.line v.overlong <;> rfl
  | cons byte bytes ih =>
    rw [List.foldl_cons, ih, read_lines, Verifier.push]
    rcases push_byte v.line v.overlong byte with ⟨line, overlong, _ | found⟩ <;> rfl

/-- What the reads give, and whether the last of them was no error. -/
def delivered : Verifier.Reads → List UInt8 × Bool
  | [] | .ok [] :: _ => ([], true)
  | .error _ :: _ => ([], false)
  | .ok (byte :: bytes) :: rest => (byte :: bytes ++ (delivered rest).1, (delivered rest).2)

theorem read_delivered (reads : Verifier.Reads) (v : Verifier) :
    v.read reads = ((delivered reads).1.foldl Verifier.push v, (delivered reads).2) := by
  induction reads generalizing v with
  | nil => rfl
  | cons first rest ih =>
    rcases first with error | bytes
    · rfl
    · cases bytes with
      | nil => rfl
      | cons byte bytes =>
        rw [Verifier.read, ih, delivered, List.foldl_append]

/-! ## The summary of a file -/

/-- A row that is well formed: its time and its identifier. -/
def parsed (rows : List Line) : List (UInt64 × UInt16) :=
  rows.filterMap fun row => (process_line row).toOption

def row_error (row : Line) : Option RowError :=
  match process_line row with
  | .ok _ => none
  | .error error => some error

def not_before (a b : UInt64 × UInt16) : Bool := a.1 ≤ b.1

def is_overlong : Line → Bool
  | .whole _ => false
  | .overlong => true

def is_header : Option Line → Bool
  | some (.whole line) => strip_cr line = HEADER
  | _ => false

def expected (row : UInt64 × UInt16) : Bool := ∃ index, EXPECTED_IDS.get index = row.2

def id_totals (rows : List (UInt64 × UInt16)) : Vector ℕ EXPECTED_COUNT :=
  .ofFn fun index => rows.countP (·.2 = EXPECTED_IDS.get index)

def segment_summary (index : ℕ) (rows : List (UInt64 × UInt16)) : SegmentStats where
  index := index
  rows := rows.length
  first_time_ms := rows.head?.map Prod.fst
  last_time_ms := rows.getLast?.map Prod.fst
  id_counts := id_totals rows
  other_id_rows := rows.countP (¬ expected ·)

/-- What is to be said of the lines of a file. -/
def summary (lines : List Line) : Stats :=
  let rows := lines.tail
  let segments := (parsed rows).splitBy not_before
  { header_ok := is_header lines.head?
    rows := rows.length
    valid_rows := (parsed rows).length
    malformed_rows := rows.countP fun row => (row_error row).isSome
    overlong_malformed_lines := lines.countP is_overlong
    bad_fields := rows.countP (row_error · = some .Fields)
    bad_time := rows.countP (row_error · = some .Time)
    bad_id := rows.countP (row_error · = some .Id)
    bad_dlc := rows.countP (row_error · = some .Dlc)
    bad_data := rows.countP (row_error · = some .Data)
    time_decreases := neighbours (fun a b => ¬ not_before a b) (parsed rows)
    segments := segments.length
    previous_time_ms := (parsed rows).getLast?.map Prod.fst
    id_counts := id_totals (parsed rows)
    other_id_rows := (parsed rows).countP (¬ expected ·)
    last_segment := segment_summary segments.length (last_segment not_before (parsed rows)) }

/-! ## One row more -/

theorem expected_ids_distinct (i j : Fin EXPECTED_COUNT)
    (h : EXPECTED_IDS.get i = EXPECTED_IDS.get j) : i = j := by
  revert i j
  decide

theorem position_isSome (id : UInt16) (time_ms : UInt64) :
    (position EXPECTED_IDS id).isSome = expected (time_ms, id) := by
  unfold expected
  cases h : position EXPECTED_IDS id with
  | none =>
    have hnone := position_eq_none.mp h
    simpa using hnone
  | some index =>
    have hsome := (position_eq_some expected_ids_distinct).mp h
    simpa using ⟨index, hsome⟩

theorem id_totals_concat (rows : List (UInt64 × UInt16)) (time_ms : UInt64) (id : UInt16) :
    id_totals (rows ++ [(time_ms, id)]) = count_id (id_totals rows) (position EXPECTED_IDS id) := by
  refine ext_get fun index => ?_
  unfold id_totals
  rw [get_ofFn, List.countP_append]
  cases h : position EXPECTED_IDS id with
  | none =>
    have hnone := position_eq_none.mp h index
    simp only [count_id, get_ofFn]
    simp [Ne.symm hnone]
  | some index' =>
    have hsome := (position_eq_some expected_ids_distinct).mp h
    simp only [count_id, get_set, get_ofFn]
    by_cases heq : index' = index
    · simp [← hsome, heq]
    · have hne : id ≠ EXPECTED_IDS.get index := fun hid =>
        heq (expected_ids_distinct _ _ (hsome.trans hid))
      simp [hne, heq]

theorem segment_summary_concat (index : ℕ) (rows : List (UInt64 × UInt16)) (time_ms : UInt64)
    (id : UInt16) :
    (segment_summary index rows).add time_ms (position EXPECTED_IDS id) =
      segment_summary index (rows ++ [(time_ms, id)]) := by
  unfold SegmentStats.add segment_summary
  rw [id_totals_concat, position_isSome id time_ms]
  cases hhead : rows.head? <;> cases h : expected (time_ms, id) <;> simp [hhead, h]

theorem id_totals_nil : id_totals [] = .replicate _ 0 := ext_get fun index => by
  simp [id_totals, Vector.get]

/-- The numbers of segments and decreases, and the last segment, as the loop has them. -/
structure Follows (stats : Stats) (rows : List (UInt64 × UInt16)) : Prop where
  previous : stats.previous_time_ms = rows.getLast?.map Prod.fst
  decreases : stats.time_decreases = neighbours (fun a b => ¬ not_before a b) rows
  segments : stats.segments = (rows.splitBy not_before).length
  last : stats.last_segment = segment_summary stats.segments (last_segment not_before rows)

theorem not_before_any (rows : List (UInt64 × UInt16)) (time_ms : UInt64) (id : UInt16) :
    (rows.getLast?.map Prod.fst).any (time_ms < ·) =
      rows.getLast?.any fun last => ¬ not_before last (time_ms, id) := by
  cases rows.getLast? with
  | none => rfl
  | some last => simp [not_before]

theorem Follows.begin_row {stats : Stats} {rows : List (UInt64 × UInt16)} (h : Follows stats rows)
    (time_ms : UInt64) (id : UInt16) :
    (stats.begin_row time_ms).time_decreases =
        neighbours (fun a b => ¬ not_before a b) (rows ++ [(time_ms, id)]) ∧
      (stats.begin_row time_ms).segments =
        ((rows ++ [(time_ms, id)]).splitBy not_before).length ∧
      (stats.begin_row time_ms).last_segment.add time_ms (position EXPECTED_IDS id) =
        segment_summary (stats.begin_row time_ms).segments
          (last_segment not_before (rows ++ [(time_ms, id)])) := by
  have hnew (index : ℕ) : SegmentStats.reset index = segment_summary index [] := by
    simp [SegmentStats.reset, SegmentStats.new, segment_summary, id_totals_nil]
  have hany := not_before_any rows time_ms id
  rw [neighbours_concat, segments_concat, last_segment_concat, ← h.decreases, ← h.segments]
  unfold Stats.begin_row
  rw [h.previous, hany]
  cases hlast : rows.getLast? with
  | none =>
    have hrows : rows = [] := List.getLast?_eq_none_iff.mp hlast
    have hzero : stats.segments = 0 := by simp [h.segments, hrows]
    simp [hzero, hnew, segment_summary_concat]
  | some last =>
    have hpos : stats.segments ≠ 0 := by
      rw [h.segments]
      simp only [ne_eq, List.length_eq_zero_iff, List.splitBy_eq_nil]
      rintro rfl
      simp at hlast
    cases hbefore : not_before last (time_ms, id) with
    | true => simp [hbefore, hpos, h.last, segment_summary_concat]
    | false => simp [hbefore, hnew, segment_summary_concat]

/-- `begin_row` changes only these. -/
theorem begin_row_rest (stats : Stats) (time_ms : UInt64) :
    stats.begin_row time_ms = { stats with
      time_decreases := (stats.begin_row time_ms).time_decreases
      segments := (stats.begin_row time_ms).segments
      last_segment := (stats.begin_row time_ms).last_segment } := by
  unfold Stats.begin_row
  split
  · rfl
  · split <;> rfl

/-- A row is counted before it is looked at. -/
def counted (stats : Stats) (row : Line) : Stats :=
  { stats with
    rows := stats.rows + 1
    overlong_malformed_lines :=
      stats.overlong_malformed_lines + if is_overlong row then 1 else 0 }

theorem process_eq (stats : Stats) (row : Line) :
    stats.process false row =
      match process_line row with
      | .ok (time_ms, id) => (counted stats row).add time_ms id
      | .error error => (counted stats row).malformed error := by
  cases row with
  | whole line => rfl
  | overlong => rfl

theorem parsed_concat (rows : List Line) (row : Line) :
    parsed (rows ++ [row]) = parsed rows ++ (process_line row).toOption.toList := by
  unfold parsed
  rw [List.filterMap_append]
  cases h : process_line row <;> simp [h, Except.toOption]

theorem summary_malformed (header : Line) (rows : List Line) {row : Line} {error : RowError}
    (h : process_line row = .error error) :
    (counted (summary (header :: rows)) row).malformed error = summary (header :: (rows ++ [row])) := by
  have hparsed : parsed (rows ++ [row]) = parsed rows := by simp [parsed_concat, h, Except.toOption]
  have herror : row_error row = some error := by simp [row_error, h]
  have hoverlong : (header :: (rows ++ [row])).countP is_overlong =
      (header :: rows).countP is_overlong + if is_overlong row then 1 else 0 := by
    rw [← List.cons_append, List.countP_append, List.countP_singleton]
  unfold summary counted Stats.malformed
  cases error <;> simp [hparsed, herror, hoverlong]

theorem summary_add (header : Line) (rows : List Line) {row : Line} {time_ms : UInt64} {id : UInt16}
    (h : process_line row = .ok (time_ms, id)) :
    (counted (summary (header :: rows)) row).add time_ms id = summary (header :: (rows ++ [row])) := by
  have hparsed : parsed (rows ++ [row]) = parsed rows ++ [(time_ms, id)] := by
    simp [parsed_concat, h, Except.toOption]
  have herror : row_error row = none := by simp [row_error, h]
  have hoverlong : (header :: (rows ++ [row])).countP is_overlong =
      (header :: rows).countP is_overlong + if is_overlong row then 1 else 0 := by
    rw [← List.cons_append, List.countP_append, List.countP_singleton]
  have hfollows : Follows (counted (summary (header :: rows)) row) (parsed rows) :=
    ⟨rfl, rfl, rfl, rfl⟩
  obtain ⟨hdecreases, hsegments, hlast⟩ := hfollows.begin_row time_ms id
  unfold Stats.add
  rw [begin_row_rest, hdecreases]
  dsimp only
  rw [hlast, hsegments, position_isSome id time_ms]
  unfold summary counted
  cases hexpected : expected (time_ms, id) <;>
    simp [hparsed, herror, hoverlong, id_totals_concat, hexpected]

theorem summary_concat (header : Line) (rows : List Line) (row : Line) :
    (summary (header :: rows)).process false row = summary (header :: (rows ++ [row])) := by
  rw [process_eq]
  split <;> rename_i h
  · exact summary_add header rows h
  · exact summary_malformed header rows h

theorem summary_header (header : Line) : Stats.process .new true header = summary [header] := by
  cases header with
  | whole line => simp [Stats.process, Stats.process_line, Stats.new, summary, id_totals_nil, is_header,
      is_overlong, parsed, segment_summary, SegmentStats.new]
  | overlong => simp [Stats.process, Stats.process_overlong, Stats.new, summary, id_totals_nil, is_header,
      is_overlong, parsed, segment_summary, SegmentStats.new]

theorem lines_stats_summary (lines : List Line) : lines_stats .new true lines = summary lines := by
  cases lines with
  | nil => simp [lines_stats, Stats.new, summary, id_totals_nil, is_header, parsed, segment_summary,
      SegmentStats.new]
  | cons header rows =>
    rw [lines_stats, summary_header]
    induction rows using List.reverseRecOn with
    | nil => rfl
    | append_singleton rows row ih => rw [lines_stats_concat, ih, summary_concat]

/-! ## Every file -/

/-- The statistics are those of the lines, whatever pieces the file is read in. -/
theorem stats_of_file (reads : Verifier.Reads) :
    (Verifier.new.read reads).1.finish = summary (read_lines [] false (delivered reads).1) ∧
      (Verifier.new.read reads).2 = (delivered reads).2 := by
  rw [read_delivered]
  exact ⟨(push_lines _ _).trans (lines_stats_summary _), rfl⟩

/-- A log with its header, in which every row is well formed and whose last segment has all the
required identifiers. -/
def Good (lines : List Line) : Prop :=
  is_header lines.head? = true ∧ lines.tail ≠ [] ∧ (∀ row ∈ lines.tail, row_error row = none) ∧
    ∀ id ∈ REQUIRED_ACTIVE_IDS, id ∈ (last_segment not_before (parsed lines.tail)).map Prod.snd

theorem id_totals_ne_zero (rows : List (UInt64 × UInt16)) (index : Fin EXPECTED_COUNT) :
    (id_totals rows).get index ≠ 0 ↔ EXPECTED_IDS.get index ∈ rows.map Prod.snd := by
  unfold id_totals
  rw [get_ofFn, ← Nat.pos_iff_ne_zero, List.countP_pos_iff]
  simp

theorem required_iff (lines : List Line) :
    required_ids_present (summary lines) = true ↔ ∀ id ∈ REQUIRED_ACTIVE_IDS,
      id ∈ (last_segment not_before (parsed lines.tail)).map Prod.snd := by
  have hexpected : REQUIRED_ACTIVE_IDS.all (fun id => (position EXPECTED_IDS id).isSome) = true := by
    decide
  unfold required_ids_present
  rw [List.all_eq_true]
  refine forall₂_congr fun id hid => ?_
  obtain ⟨index, hindex⟩ := Option.isSome_iff_exists.mp (List.all_eq_true.mp hexpected id hid)
  rw [hindex, Option.any_some, decide_eq_true_eq,
    ← (position_eq_some expected_ids_distinct).mp hindex]
  exact id_totals_ne_zero _ index

theorem valid_iff (rows : List Line) :
    (parsed rows).length = rows.length ↔ ∀ row ∈ rows, row_error row = none := by
  unfold parsed
  rw [List.filterMap_length_eq_length]
  refine forall₂_congr fun row _ => ?_
  unfold row_error
  cases process_line row <;> simp [Except.toOption]

/-- A log that is good has no line that is too long. -/
theorem overlong_of_good {lines : List Line} (hheader : is_header lines.head? = true)
    (hrows : ∀ row ∈ lines.tail, row_error row = none) : lines.countP is_overlong = 0 := by
  rw [List.countP_eq_zero]
  intro line hline
  cases lines with
  | nil => simp at hline
  | cons header rows =>
    rcases List.mem_cons.mp hline with rfl | hrow
    · cases line with
      | whole => simp [is_overlong]
      | overlong => simp [is_header] at hheader
    · have hnone := hrows line hrow
      cases line with
      | whole => simp [is_overlong]
      | overlong => simp [row_error, process_line] at hnone

/-- The verdict. -/
theorem verify_iff (card_ok close_ok : Bool) (reads : Verifier.Reads) :
    verify card_ok reads close_ok = true ↔ card_ok = true ∧ close_ok = true ∧
      (delivered reads).2 = true ∧ Good (read_lines [] false (delivered reads).1) := by
  obtain ⟨hstats, hread⟩ := stats_of_file reads
  generalize read_lines [] false (delivered reads).1 = lines at hstats ⊢
  unfold verify
  dsimp only
  rw [hstats, hread]
  simp only [Bool.and_eq_true, decide_eq_true_eq, required_iff]
  unfold Good
  constructor
  · rintro ⟨⟨⟨⟨⟨⟨⟨⟨hcard, hok⟩, hheader⟩, hrows⟩, hvalid⟩, -⟩, -⟩, hrequired⟩, hclose⟩
    refine ⟨hcard, hclose, hok, hheader, ?_, (valid_iff _).mp hvalid, hrequired⟩
    rintro hnil
    simp [summary, hnil] at hrows
  · rintro ⟨hcard, hclose, hok, hheader, hrows, hvalid, hrequired⟩
    have hoverlong : (summary lines).overlong_malformed_lines = 0 := overlong_of_good hheader hvalid
    have hlength : (summary lines).rows ≠ 0 := (List.length_pos_iff.mpr hrows).ne'
    have hlast : (summary lines).last_segment.rows ≠ 0 := by
      obtain ⟨row, hmem, -⟩ := List.mem_map.mp (hrequired 0x100 (by decide))
      exact (List.length_pos_iff.mpr (List.ne_nil_of_mem hmem)).ne'
    exact ⟨⟨⟨⟨⟨⟨⟨⟨hcard, hok⟩, hheader⟩, hlength⟩, (valid_iff _).mpr hvalid⟩, hoverlong⟩, hlast⟩,
      hrequired⟩, hclose⟩

/-! ## The log of a run -/

open LoggedFrames in
/-- What the verifier says of the log that a run has written, once it is all on the card: the times and
identifiers of what was logged decide. -/
theorem verdict_of_run {past : List CanLogReport} {w : CanLog}
    (run : Machine.Run CanLog.machine Written past w) (hok : w.sd.sd_has_error = false)
    (hflushed : w.sd.can.pending = []) {reads : Verifier.Reads}
    (hreads : delivered reads = (HEADER ++ 10 :: w.sd.can.written, true)) :
    verify true reads true = true ↔ logged past ≠ [] ∧ ∀ id ∈ REQUIRED_ACTIVE_IDS,
      id ∈ (last_segment not_before
        ((logged past).map fun record => (record.received_at_ms, record.identifier))).map Prod.snd := by
  obtain ⟨-, -, hread, -⟩ := log_of_frames run hok
  rw [hflushed, List.append_nil] at hread
  have hlines : read_lines [] false (HEADER ++ 10 :: w.sd.can.written) =
      .whole HEADER :: read_lines [] false w.sd.can.written :=
    SdLog.read_lines_whole HEADER (by decide +kernel) (by decide +kernel)
  have hheader : strip_cr HEADER = HEADER := by decide +kernel
  generalize read_lines [] false w.sd.can.written = rows at hread hlines
  have hparsed : parsed rows =
      (logged past).map fun record => (record.received_at_ms, record.identifier) := by
    have hfilter : parsed rows = (rows.map process_line).filterMap Except.toOption := by
      rw [List.filterMap_map]
      rfl
    rw [hfilter, hread, List.filterMap_map, ← List.filterMap_eq_map]
    rfl
  have hlength : rows.length = (logged past).length := by simpa using congrArg List.length hread
  have hvalid : ∀ row ∈ rows, row_error row = none := by
    rw [← valid_iff, hparsed, List.length_map, hlength]
  have hempty : rows ≠ [] ↔ logged past ≠ [] := by
    rw [← List.length_pos_iff, hlength, List.length_pos_iff]
  rw [verify_iff, hreads, hlines]
  unfold Good
  simp only [List.head?_cons, List.tail_cons, is_header, hheader, hparsed, decide_true, true_and,
    hempty]
  exact ⟨fun h => ⟨h.1, h.2.2⟩, fun h => ⟨h.1, hvalid, h.2⟩⟩

/-- A frame with an identifier, eight bytes long. -/
def frame_of (identifier : UInt16) : Option CanFrame :=
  CanFrame.new identifier [0, 1, 2, 3, 4, 5, 6, 7]

/-- A frame comes, and is logged. -/
def logs_frame (identifier : UInt16) (frame : CanFrame) : List CanLog.Action :=
  [.can (.received frame 100 CanSteps.calm),
    .sd (SdLog.succeeding (.record (frame.raw identifier 100) true) true)]

def required_frames : List CanLog.Action :=
  (REQUIRED_ACTIVE_IDS.flatMap fun identifier =>
    (frame_of identifier).toList.flatMap (logs_frame identifier)) ++
      [.sd (SdLog.succeeding .tick true)]

theorem verdict_of_run_required : ∃ past w, Machine.Run CanLog.machine LoggedFrames.Written past w ∧
    w.sd.sd_has_error = false ∧ w.sd.can.pending = [] ∧
      verify true [.ok (HEADER ++ 10 :: w.sd.can.written)] true = true := by
  obtain ⟨past, w, run, hok, hflushed, hlogged⟩ :
      ∃ past w, Machine.Run CanLog.machine LoggedFrames.Written past w ∧
        w.sd.sd_has_error = false ∧ w.sd.can.pending = [] ∧
          (LoggedFrames.logged past).map (fun record => (record.received_at_ms, record.identifier)) =
            REQUIRED_ACTIVE_IDS.map fun id => (100, id) :=
    Machine.exists_checked_run (fun (w : CanLog) past => w.sd.sd_has_error = false ∧
      w.sd.can.pending = [] ∧
        (LoggedFrames.logged past).map (fun record => (record.received_at_ms, record.identifier)) =
          REQUIRED_ACTIVE_IDS.map fun id => (100, id)) (s := ⟨.start CanSteps.calm.registers, .new⟩)
      required_frames ⟨⟨CanSteps.calm.registers, rfl⟩, rfl⟩ (by decide +kernel)
  refine ⟨past, w, run, hok, hflushed, (verdict_of_run run hok hflushed ?_).mpr ⟨?_, ?_⟩⟩
  · have hne : HEADER ++ 10 :: w.sd.can.written ≠ [] := by simp
    obtain ⟨byte, bytes, hbytes⟩ := List.exists_cons_of_ne_nil hne
    rw [hbytes]
    simp [delivered]
  · rintro hnil
    rw [hnil] at hlogged
    simp [REQUIRED_ACTIVE_IDS] at hlogged
  · have hall : (REQUIRED_ACTIVE_IDS.all fun id => decide (id ∈ (last_segment not_before
        (REQUIRED_ACTIVE_IDS.map fun id => ((100 : UInt64), id))).map Prod.snd)) = true := by
      decide +kernel
    rw [hlogged]
    exact fun id hid => of_decide_eq_true (List.all_eq_true.mp hall id hid)

end Comboard.LogVerdict
