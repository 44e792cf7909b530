import Comboard.Code.SdLogVerify
import Comboard.Code.SdTask
import Mathlib.Data.List.GetD

/-!
# The log is complete and can be read back

The file and the buffer in front of it are one stream of rows. A turn only adds to it.
-/

namespace Comboard.SdLog

open Lib SdWriter

/-! ## A row -/

/-- What `writeln!` writes of a record when there is room. -/
def can_text (record : RawCanRecord) : List UInt8 := [44].intercalate (can_fields record) ++ [10]

/-- A record of a standard frame. -/
structure Standard (record : RawCanRecord) : Prop where
  identifier : record.identifier ≤ 0x7ff
  data_length : record.data_length ≤ 8

instance instDecidableStandard (record : RawCanRecord) : Decidable (Standard record) :=
  decidable_of_iff (record.identifier ≤ 0x7ff ∧ record.data_length ≤ 8)
    ⟨fun h => ⟨h.1, h.2⟩, fun h => ⟨h.identifier, h.data_length⟩⟩

theorem Standard.identifier_le {record : RawCanRecord} (h : Standard record) :
    record.identifier.toNat ≤ 0x7ff :=
  UInt16.le_iff_toNat_le.mp h.identifier

theorem Standard.data_length_le {record : RawCanRecord} (h : Standard record) :
    record.data_length.toNat ≤ 8 :=
  UInt8.le_iff_toNat_le.mp h.data_length

/-- The letters of the fields. -/
theorem mem_can_fields {record : RawCanRecord} {field : List UInt8} {byte : UInt8}
    (hfield : field ∈ can_fields record) (hbyte : byte ∈ field) :
    48 ≤ byte.toNat ∧ byte.toNat ≤ 90 := by
  simp only [can_fields, display, List.cons_append, List.nil_append, List.mem_cons,
    List.mem_map] at hfield
  rcases hfield with rfl | rfl | rfl | ⟨value, -, rfl⟩ <;>
    exact mem_to_radix (by decide) (by decide) hbyte

theorem can_fields_ne_nil (record : RawCanRecord) : can_fields record ≠ [] := nofun

/-- The letters of a line. -/
theorem mem_line {record : RawCanRecord} {byte : UInt8}
    (h : byte ∈ [44].intercalate (can_fields record)) : 44 ≤ byte.toNat ∧ byte.toNat ≤ 90 := by
  rcases mem_intercalate h with rfl | ⟨field, hfield, hbyte⟩
  · decide
  · have hletter := mem_can_fields hfield hbyte
    omega

theorem line_length_le {record : RawCanRecord} (h : Standard record) :
    ([44].intercalate (can_fields record)).length ≤ 50 := by
  have htime : (display record.received_at_ms.toNat).length ≤ 20 :=
    to_radix_length_le (by decide) (by decide) (record.received_at_ms.toNat_lt.trans (by decide))
  have hid : (to_radix 16 3 record.identifier.toNat).length = 3 :=
    to_radix_length (by decide) (h.identifier_le.trans_lt (by decide))
  have hdlc : (display record.data_length.toNat).length = 1 :=
    to_radix_length (by decide) (h.data_length_le.trans_lt (by decide))
  have hdata : ((record.data.toList.map fun byte => to_radix 16 2 byte.toNat).map
      fun next => next.length + 1).sum = 24 := by
    have hbyte (byte : UInt8) : (to_radix 16 2 byte.toNat).length + 1 = 3 := by
      rw [to_radix_length (by decide) (show byte.toNat < 16 ^ 2 from byte.toNat_lt)]
    rw [List.map_map]
    simp [Function.comp_def, hbyte]
  unfold can_fields
  simp only [List.cons_append, List.nil_append]
  rw [length_intercalate]
  simp only [List.map_cons, List.sum_cons, hid, hdlc, hdata]
  omega

theorem can_text_length_le {record : RawCanRecord} (h : Standard record) :
    (can_text record).length ≤ 51 := by
  rw [can_text, List.length_append, List.length_singleton]
  exact Nat.succ_le_succ (line_length_le h)

theorem can_row_standard {record : RawCanRecord} (h : Standard record) :
    can_row record = some (can_text record) :=
  if_pos ((can_text_length_le h).trans (by decide))

/-! ## Reading a row -/

theorem number_field_display {maximum value : Nat} (error : RowError) (h : value ≤ maximum) :
    number_field maximum 10 error (display value) = .ok value := by
  rw [number_field, display, from_str_radix_to_radix (by decide) (by decide) (by decide) h]

theorem number_field_hex {maximum width value : Nat} (error : RowError) (hwidth : 0 < width)
    (h : value ≤ maximum) : number_field maximum 16 error (to_radix 16 width value) = .ok value := by
  rw [number_field, from_str_radix_to_radix (by decide) (by decide) hwidth h]

theorem ok_bind {α β : Type} (value : α) (next : α → RowParsing β) :
    (.ok value >>= next) = next value := rfl

theorem data_fields_map (data : List UInt8) :
    data_fields data.length (data.map fun byte => to_radix 16 2 byte.toNat) = .ok [] := by
  induction data with
  | nil => rfl
  | cons byte data ih =>
    have hlength : (to_radix 16 2 byte.toNat).length = 2 :=
      to_radix_length (by decide) byte.toNat_lt
    have hread : from_str_radix 0xff 16 (to_radix 16 2 byte.toNat) = some byte.toNat :=
      from_str_radix_to_radix (by decide) (by decide) (by decide) (Nat.le_of_lt_succ byte.toNat_lt)
    simp only [List.length_cons, List.map_cons, data_fields, next_field, ok_bind, hlength, hread]
    exact ih

theorem parse_row_line {record : RawCanRecord} (h : Standard record) :
    parse_row ([44].intercalate (can_fields record)) =
      .ok (record.received_at_ms, record.identifier) := by
  have hutf8 : ([44].intercalate (can_fields record)).toByteArray.IsValidUTF8 :=
    isValidUTF8_of_ascii fun byte hbyte => (mem_line hbyte).2.trans_lt (by decide)
  have hfields : ([44].intercalate (can_fields record)).splitOn 44 = can_fields record := by
    refine List.splitOn_intercalate 44 (fun field hfield hcomma => ?_) (can_fields_ne_nil record)
    exact absurd (mem_can_fields hfield hcomma).1 (by decide)
  have hid : (to_radix 16 3 record.identifier.toNat).length = 3 :=
    to_radix_length (by decide) (h.identifier_le.trans_lt (by decide))
  have hdata := data_fields_map record.data.toList
  rw [Vector.length_toList] at hdata
  unfold parse_row
  rw [if_neg (not_not_intro hutf8), hfields]
  simp only [can_fields, List.cons_append, List.nil_append, next_field, ok_bind]
  rw [number_field_display _ (Nat.le_of_lt_succ record.received_at_ms.toNat_lt), ok_bind,
    if_neg (not_not_intro hid), number_field_hex _ (by decide) (h.identifier_le.trans (by decide)),
    ok_bind, if_neg (Nat.not_lt.mpr h.identifier_le),
    number_field_display _ (h.data_length_le.trans (by decide)), ok_bind,
    if_neg (Nat.not_lt.mpr h.data_length_le), hdata, ok_bind]
  rw [if_neg (by decide), UInt64.ofNat_toNat, UInt16.ofNat_toNat]
  rfl

/-! ## Reading the log -/

/-- The lines of a text, up to its last newline. -/
def lines (text : List UInt8) : List (List UInt8) := (text.splitOn 10).dropLast

theorem newline_not_mem_line (record : RawCanRecord) : 10 ∉ [44].intercalate (can_fields record) :=
  fun h => absurd (mem_line h).1 (by decide)

theorem can_text_append (record : RawCanRecord) (rest : List UInt8) :
    can_text record ++ rest = [44].intercalate (can_fields record) ++ 10 :: rest := by
  rw [can_text, List.append_assoc]
  rfl

theorem splitOn_rows (records : List RawCanRecord) :
    (records.flatMap can_text).splitOn 10 =
      (records.map fun record => [44].intercalate (can_fields record)) ++ [[]] := by
  induction records with
  | nil => rfl
  | cons record records ih =>
    rw [List.flatMap_cons, can_text_append,
      List.splitOn_append_cons_self_of_not_mem (newline_not_mem_line record), ih]
    rfl

theorem lines_rows (records : List RawCanRecord) :
    lines (records.flatMap can_text) =
      records.map fun record => [44].intercalate (can_fields record) := by
  rw [lines, splitOn_rows, List.dropLast_concat]

theorem parse_rows {records : List RawCanRecord} (h : ∀ record ∈ records, Standard record) :
    (lines (records.flatMap can_text)).map parse_row =
      records.map fun record => .ok (record.received_at_ms, record.identifier) := by
  rw [lines_rows, List.map_map]
  refine List.map_congr_left fun record hrecord => ?_
  rw [Function.comp_apply, parse_row_line (h record hrecord)]

/-- The loop of the verifier reads a line that is not too long. -/
theorem read_lines_whole (text : List UInt8) {before rest : List UInt8} (hnewline : 10 ∉ text)
    (hlength : before.length + text.length ≤ LINE_CAPACITY) :
    read_lines before false (text ++ 10 :: rest) =
      .whole (before ++ text) :: read_lines [] false rest := by
  induction text generalizing before with
  | nil => simp [read_lines, push_byte]
  | cons byte text ih =>
    simp only [List.mem_cons, not_or, List.length_cons] at hnewline hlength
    have hroom : before.length < LINE_CAPACITY := by omega
    have hpush : push_byte before false byte = (before ++ [byte], false, none) := by
      rw [push_byte, if_neg (Ne.symm hnewline.1), if_neg (by decide), if_pos hroom]
    rw [List.cons_append, read_lines, hpush]
    dsimp only [Option.toList_none, List.nil_append]
    rw [ih hnewline.2 (by rw [List.length_append, List.length_singleton]; omega), List.append_assoc]
    rfl

theorem read_rows {records : List RawCanRecord} (h : ∀ record ∈ records, Standard record) :
    read_lines [] false (records.flatMap can_text) =
      records.map fun record => .whole ([44].intercalate (can_fields record)) := by
  induction records with
  | nil => rfl
  | cons record records ih =>
    have hlength := (line_length_le (h record List.mem_cons_self)).trans
      (show 50 ≤ LINE_CAPACITY by decide)
    rw [List.flatMap_cons, can_text_append,
      read_lines_whole _ (newline_not_mem_line record) (by rwa [List.length_nil, Nat.zero_add]),
      ih fun later hlater => h later (List.mem_cons_of_mem record hlater)]
    rfl

theorem strip_cr_line (record : RawCanRecord) :
    strip_cr ([44].intercalate (can_fields record)) = [44].intercalate (can_fields record) := by
  refine if_neg fun hlast => ?_
  exact absurd (mem_line (List.mem_of_getLast? hlast)).1 (by decide)

theorem verify_rows {records : List RawCanRecord} (h : ∀ record ∈ records, Standard record) :
    (read_lines [] false (records.flatMap can_text)).map process_line =
      records.map fun record => .ok (record.received_at_ms, record.identifier) := by
  rw [read_rows h, List.map_map]
  refine List.map_congr_left fun record hrecord => ?_
  rw [Function.comp_apply, process_line, strip_cr_line, parse_row_line (h record hrecord)]

/-! ## A file and its buffer -/

/-- The file, and what is to come. -/
def stream (l : LogFile) : List UInt8 := l.written ++ l.pending

def Fits (l : LogFile) : Prop := l.cursor ≤ BUF_SIZE

theorem pending_length {l : LogFile} (fits : Fits l) : l.pending.length = l.cursor := by
  rw [LogFile.pending, List.length_take, Vector.length_toList]
  exact Nat.min_eq_left fits

theorem write_written {l : LogFile} {outcome : FileWrite} (h : outcome.lost = 0) :
    (l.write outcome).written = stream l := by
  rw [LogFile.write, h, Nat.sub_zero, List.take_length]
  rfl

theorem make_room_fits {l : LogFile} (fits : Fits l) (length : Nat) (outcome : FileWrite) :
    Fits (l.make_room length outcome).1 := by
  unfold LogFile.make_room
  split
  · exact Nat.zero_le _
  · exact fits

theorem make_room_stream (l : LogFile) (length : Nat) {outcome : FileWrite} (h : outcome.lost = 0) :
    stream (l.make_room length outcome).1 = stream l := by
  unfold LogFile.make_room
  split
  · rw [stream, LogFile.pending, List.take_zero, List.append_nil]
    exact write_written h
  · rfl

theorem make_room_room {l : LogFile} {length : Nat} (hlength : length ≤ BUF_SIZE)
    (outcome : FileWrite) : (l.make_room length outcome).1.cursor + length ≤ BUF_SIZE := by
  unfold LogFile.make_room
  split
  · rwa [Nat.zero_add]
  · rename_i hroom
    exact Nat.not_lt.mp hroom

theorem copy_from_slice_pending {l : LogFile} {bytes : List UInt8}
    (hroom : l.cursor + bytes.length ≤ BUF_SIZE) :
    (l.copy_from_slice bytes).pending = l.pending ++ bytes := by
  have hlength : l.pending.length = l.cursor := pending_length (Nat.le_of_add_right_le hroom)
  apply List.ext_getElem
  · rw [@pending_length (l.copy_from_slice bytes) hroom, List.length_append, hlength]
    rfl
  · intro i h₁ h₂
    have hi : i < l.cursor + bytes.length := by rwa [List.length_append, hlength] at h₂
    simp only [LogFile.pending, LogFile.copy_from_slice, List.getElem_take, Vector.getElem_toList,
      Vector.getElem_ofFn]
    by_cases hbefore : i < l.cursor
    · rw [if_neg fun h => absurd h.1 (Nat.not_le.mpr hbefore),
        List.getElem_append_left (by rwa [← LogFile.pending, hlength]), List.getElem_take,
        Vector.getElem_toList]
      rfl
    · have hbehind := Nat.not_lt.mp hbefore
      have hsame : i - (l.buffer.toList.take l.cursor).length = i - l.cursor :=
        congrArg (i - ·) hlength
      rw [if_pos ⟨hbehind, hi⟩, List.getElem_append_right (by rwa [← LogFile.pending, hlength])]
      simp only [hsame]
      exact List.getD_eq_getElem _ _ (by omega)

theorem copy_from_slice_stream {l : LogFile} {bytes : List UInt8}
    (hroom : l.cursor + bytes.length ≤ BUF_SIZE) :
    stream (l.copy_from_slice bytes) = stream l ++ bytes := by
  have hwritten : (l.copy_from_slice bytes).written = l.written := by
    rw [LogFile.copy_from_slice]
  rw [stream, hwritten, copy_from_slice_pending hroom, stream, List.append_assoc]

theorem append_row_fits {l : LogFile} (fits : Fits l) (row : Option (List UInt8))
    (outcome : FileWrite) : Fits (l.append_row row outcome).1 := by
  unfold LogFile.append_row
  split
  · exact fits
  · dsimp only
    split
    · assumption
    · exact make_room_fits fits _ outcome

/-- A row is stored behind what is there. -/
theorem append_row_stream {l : LogFile} {bytes : List UInt8} {outcome : FileWrite}
    (hlength : bytes.length ≤ BUF_SIZE) (h : outcome.lost = 0) :
    stream (l.append_row (some bytes) outcome).1 = stream l ++ bytes := by
  have hroom := @make_room_room l bytes.length hlength outcome
  rw [LogFile.append_row]
  dsimp only
  rw [if_pos hroom, copy_from_slice_stream hroom, make_room_stream l _ h]

theorem drain_fits {l : LogFile} (fits : Fits l) (outcome : FileWrite) :
    Fits (l.drain outcome).1 := by
  unfold LogFile.drain
  split
  · dsimp only
    split
    · exact Nat.zero_le _
    · exact fits
  · exact fits

theorem drain_stream {l : LogFile} {outcome : FileWrite} (h : outcome.lost = 0)
    (hok : (l.drain outcome).2 = true) : stream (l.drain outcome).1 = stream l := by
  unfold LogFile.drain at hok ⊢
  split at hok <;> rename_i hcursor
  · rw [if_pos hcursor]
    dsimp only at hok ⊢
    rw [if_pos hok, stream, LogFile.pending, List.take_zero, List.append_nil]
    exact write_written h
  · rw [if_neg hcursor]

/-! ## The writer -/

theorem count_can (w : SdWriter) (ok stored : Bool) : (w.count ok stored).can = w.can := by
  cases ok <;> cases stored <;> rfl

theorem count_control_roll (w : SdWriter) (ok stored : Bool) :
    (w.count ok stored).control_roll = w.control_roll := by
  cases ok <;> cases stored <;> rfl

theorem count_error (w : SdWriter) (ok stored : Bool) :
    (w.count ok stored).sd_has_error = (w.sd_has_error || !ok) := by
  cases ok <;> cases stored <;> simp [count, mark_sd_error]

/-- A part of a turn adds this text to the log, unless there is an error. -/
structure Adds (w w' : SdWriter) (text : List UInt8) : Prop where
  error : w'.sd_has_error = false → w.sd_has_error = false
  fits : Fits w.can → Fits w'.can
  roll_fits : Fits w.control_roll → Fits w'.control_roll
  stream : w'.sd_has_error = false → stream w'.can = stream w.can ++ text

theorem Adds.refl (w : SdWriter) : Adds w w [] := ⟨id, id, id, fun _ => (List.append_nil _).symm⟩

theorem Adds.trans {w₁ w₂ w₃ : SdWriter} {text later : List UInt8} (h : Adds w₁ w₂ text)
    (h' : Adds w₂ w₃ later) : Adds w₁ w₃ (text ++ later) where
  error hok := h.error (h'.error hok)
  fits := h'.fits ∘ h.fits
  roll_fits := h'.roll_fits ∘ h.roll_fits
  stream hok := by rw [h'.stream hok, h.stream (h'.error hok), List.append_assoc]

theorem count_adds {w w' : SdWriter} {ok stored : Bool} {text : List UInt8}
    (herror : w'.sd_has_error = w.sd_has_error) (fits : Fits w.can → Fits w'.can)
    (roll_fits : Fits w.control_roll → Fits w'.control_roll)
    (h : ok = true → stream w'.can = stream w.can ++ text) : Adds w (w'.count ok stored) text where
  error hok := by
    rw [count_error, herror, Bool.or_eq_false_iff] at hok
    exact hok.1
  fits := by rwa [count_can]
  roll_fits := by rwa [count_control_roll]
  stream hok := by
    rw [count_error, Bool.or_eq_false_iff, Bool.not_eq_false'] at hok
    rw [count_can]
    exact h hok.2

theorem append_can_row_adds (w : SdWriter) {record : RawCanRecord} {outcome : FileWrite}
    (hrecord : Standard record) (h : outcome.lost = 0) :
    Adds w (w.append_can_row record outcome) (can_text record) := by
  have hlength : (can_text record).length ≤ BUF_SIZE :=
    (can_text_length_le hrecord).trans (by decide)
  have hstream := @append_row_stream w.can (can_text record) outcome hlength h
  have hfits (fits : Fits w.can) := append_row_fits fits (some (can_text record)) outcome
  unfold append_can_row
  rw [can_row_standard hrecord]
  rcases hrow : w.can.append_row (some (can_text record)) outcome with ⟨can, ok, stored⟩
  rw [hrow] at hstream hfits
  exact @count_adds w { w with can } ok stored _ rfl hfits id fun _ => hstream

theorem append_control_roll_row_adds (w : SdWriter) (record : RawCanRecord) (outcome : FileWrite) :
    Adds w (w.append_control_roll_row record outcome) [] := by
  unfold append_control_roll_row
  split
  · rename_i value _
    have hfits (fits : Fits w.control_roll) :=
      append_row_fits fits (control_roll_row record value) outcome
    rcases hrow : w.control_roll.append_row (control_roll_row record value) outcome with
      ⟨control_roll, ok, stored⟩
    rw [hrow] at hfits
    exact @count_adds w { w with control_roll } ok stored _ rfl id hfits fun _ =>
      (List.append_nil _).symm
  · exact .refl w

/-- A flush adds nothing. -/
theorem flush_adds (w : SdWriter) (ok : Bool) : Adds w (w.count ok true) [] :=
  count_adds rfl id id fun _ => (List.append_nil _).symm

theorem drain_can_adds (w : SdWriter) {outcomes : FileOutcomes} (h : outcomes.drain.lost = 0) :
    Adds w (w.drain_can outcomes) [] := by
  have hstream := @drain_stream w.can outcomes.drain h
  have hfits (fits : Fits w.can) := drain_fits fits outcomes.drain
  unfold drain_can
  rcases hdrain : w.can.drain outcomes.drain with ⟨can, ok⟩
  rw [hdrain] at hstream hfits
  have hdrained : Adds w ({ w with can }.count ok true) [] :=
    @count_adds w { w with can } ok true _ rfl hfits id fun hok => by
      rw [List.append_nil]
      exact hstream hok
  exact hdrained.trans (flush_adds _ _)

theorem drain_control_roll_adds (w : SdWriter) (outcomes : FileOutcomes) :
    Adds w (w.drain_control_roll outcomes) [] := by
  have hfits (fits : Fits w.control_roll) := drain_fits fits outcomes.drain
  unfold drain_control_roll
  rcases hdrain : w.control_roll.drain outcomes.drain with ⟨control_roll, ok⟩
  rw [hdrain] at hfits
  have hdrained : Adds w ({ w with control_roll }.count ok true) [] :=
    @count_adds w { w with control_roll } ok true _ rfl id hfits fun _ => (List.append_nil _).symm
  exact hdrained.trans (flush_adds _ _)

/-! ## A turn -/

/-- A record that is to be logged. -/
def requested (reports : List (RawCanRecord × Bool)) : List RawCanRecord :=
  (reports.filter fun report => report.2).map Prod.fst

theorem requested_append (past new : List (RawCanRecord × Bool)) :
    requested (past ++ new) = requested past ++ requested new := by
  rw [requested, List.filter_append, List.map_append]
  rfl

/-- The records are of standard frames, and every write gets all its bytes into the file. -/
structure Whole (t : SdTurn) : Prop where
  records : ∀ report ∈ received t.event, Standard report.1
  room : t.can.room.lost = 0
  drain : t.can.drain.lost = 0

/-- Nothing changes that the log depends on. -/
theorem adds_nothing {w w' : SdWriter} (hcan : w'.can = w.can)
    (hroll : w'.control_roll = w.control_roll) (herror : w'.sd_has_error = w.sd_has_error) :
    Adds w w' [] where
  error hok := herror.symm.trans hok
  fits := by rw [hcan]; exact id
  roll_fits := by rw [hroll]; exact id
  stream _ := by rw [hcan, List.append_nil]

theorem receive_adds (w : SdWriter) {record : RawCanRecord} (logging_requested : Bool)
    {can : FileWrite} (control_roll : FileWrite) (hrecord : Standard record) (h : can.lost = 0) :
    Adds w (w.receive record logging_requested can control_roll)
      ((requested [(record, logging_requested)]).flatMap can_text) := by
  have htext : (requested [(record, true)]).flatMap can_text = can_text record :=
    List.append_nil _
  unfold receive
  cases logging_requested with
  | false => exact adds_nothing rfl rfl rfl
  | true =>
    by_cases herror : w.sd_has_error = true
    · have hnot : ¬ (true = true ∧ ¬ w.sd_has_error = true) := fun h => h.2 herror
      dsimp only
      rw [if_neg hnot]
      exact ⟨id, id, id, fun hok => absurd (herror.symm.trans hok) (by decide)⟩
    · have hlogging : Adds w { w with logging_active := true, sd_logging_led := true } [] :=
        adds_nothing rfl rfl rfl
      have hrow := hlogging.trans ((append_can_row_adds _ hrecord h).trans
        (append_control_roll_row_adds _ record control_roll))
      rw [List.nil_append, List.append_nil] at hrow
      dsimp only
      rw [if_pos ⟨rfl, herror⟩, htext]
      exact hrow

theorem take_event_adds (w : SdWriter) {t : SdTurn} (whole : Whole t) :
    Adds w (w.take_event t).1 ((requested (received t.event)).flatMap can_text) := by
  have hrecords := whole.records
  unfold take_event
  cases hevent : t.event with
  | record record logging_requested =>
    rw [hevent] at hrecords
    exact receive_adds w logging_requested t.control_roll.room (hrecords _ List.mem_cons_self) whole.room
  | tick => exact .refl w
  | signal => exact .refl w

theorem turn_adds (w : SdWriter) {t : SdTurn} (whole : Whole t) :
    Adds w (w.turn t) ((requested (received t.event)).flatMap can_text) := by
  have hevent := take_event_adds w whole
  unfold turn
  rcases htake : w.take_event t with ⟨v, flush_requested⟩
  rw [htake] at hevent
  have hflush : Adds v (if flush_requested ∨ ¬ t.requested_at_flush then
      (v.drain_can t.can).drain_control_roll t.control_roll else v) [] := by
    split
    · exact (drain_can_adds v whole.drain).trans (drain_control_roll_adds _ _)
    · exact .refl v
  have hend (u : SdWriter) : Adds u (if t.requested_at_end then u else
      { u with logging_active := false, sd_logging_led := false }) [] := by
    split
    · exact .refl u
    · exact adds_nothing rfl rfl rfl
  have hturn := (hevent.trans hflush).trans (hend _)
  simp only [List.append_nil] at hturn
  exact ⟨hturn.error, hturn.fits, hturn.roll_fits, hturn.stream⟩

/-- Where the loop ends, the flag tells if a buffer holds anything. -/
theorem turn_unflushed (w : SdWriter) (t : SdTurn) :
    (w.turn t).has_unflushed_data =
      decide ((w.turn t).can.cursor > 0 ∨ (w.turn t).control_roll.cursor > 0) := rfl

/-! ## Every run -/

/-- What a run keeps. -/
structure Complete (past : List (RawCanRecord × Bool)) (w : SdWriter) : Prop where
  records : ∀ report ∈ past, Standard report.1
  fits : Fits w.can
  roll_fits : Fits w.control_roll
  unflushed : w.has_unflushed_data = decide (w.can.cursor > 0 ∨ w.control_roll.cursor > 0)
  stream : w.sd_has_error = false → stream w.can = (requested past).flatMap can_text

theorem complete_turn {past : List (RawCanRecord × Bool)} {w : SdWriter} {t : SdTurn}
    (complete : Complete past w) (whole : Whole t) :
    Complete (past ++ received t.event) (w.turn t) where
  records report hreport := by
    rcases List.mem_append.mp hreport with h | h
    · exact complete.records report h
    · exact whole.records report h
  fits := (turn_adds w whole).fits complete.fits
  roll_fits := (turn_adds w whole).roll_fits complete.roll_fits
  unflushed := turn_unflushed w t
  stream hok := by
    have adds := turn_adds w whole
    rw [adds.stream hok, complete.stream (adds.error hok), requested_append, List.flatMap_append]

theorem complete_run {past : List (RawCanRecord × Bool)} {w : SdWriter}
    (run : Machine.Run machine (fun _ t => Whole t) past w) : Complete past w := by
  refine run.invariant (I := Complete) ?_ fun past w t w' new _ complete whole h => ?_
  · rintro _ rfl
    exact ⟨nofun, Nat.zero_le _, Nat.zero_le _, rfl, fun _ => rfl⟩
  · obtain ⟨rfl, rfl⟩ := Prod.mk.inj (Option.some.inj h)
    exact complete_turn complete whole

theorem requested_standard {past : List (RawCanRecord × Bool)}
    (h : ∀ report ∈ past, Standard report.1) : ∀ record ∈ requested past, Standard record := by
  intro record hrecord
  obtain ⟨report, hreport, rfl⟩ := List.mem_map.mp hrecord
  exact h report (List.mem_of_mem_filter hreport)

theorem pending_ne_nil {l : LogFile} (fits : Fits l) : l.pending ≠ [] ↔ l.cursor > 0 := by
  rw [← List.length_pos_iff, pending_length fits]

/-- The log holds the rows of the records that came while logging was requested. What parses a row and
what reads the file agree with what writes them. -/
theorem log_complete_and_readable {past : List (RawCanRecord × Bool)} {w : SdWriter}
    (run : Machine.Run machine (fun _ t => Whole t) past w) (hok : w.sd_has_error = false) :
    w.can.written ++ w.can.pending = (requested past).flatMap can_text ∧
      w.can.cursor ≤ BUF_SIZE ∧ w.control_roll.cursor ≤ BUF_SIZE ∧
        (w.has_unflushed_data = true ↔ w.can.pending ≠ [] ∨ w.control_roll.pending ≠ []) ∧
          (lines (w.can.written ++ w.can.pending)).map parse_row =
            (requested past).map (fun record => .ok (record.received_at_ms, record.identifier)) ∧
          (read_lines [] false (w.can.written ++ w.can.pending)).map process_line =
            (requested past).map fun record => .ok (record.received_at_ms, record.identifier) := by
  have complete := complete_run run
  have hstream : w.can.written ++ w.can.pending = (requested past).flatMap can_text :=
    complete.stream hok
  have hstandard := requested_standard complete.records
  refine ⟨hstream, complete.fits, complete.roll_fits, ?_, ?_, ?_⟩
  · rw [complete.unflushed, decide_eq_true_iff, pending_ne_nil complete.fits,
      pending_ne_nil complete.roll_fits]
  · rw [hstream]
    exact parse_rows hstandard
  · rw [hstream]
    exact verify_rows hstandard

def allWritten : FileOutcomes where
  room := { lost := 0, ok := true }
  drain := { lost := 0, ok := true }
  flushed := true

/-- A turn at which everything succeeds. -/
def succeeding (event : SdEvent) (logging_requested : Bool) : SdTurn where
  event := event
  requested_at_flush := logging_requested
  requested_at_end := logging_requested
  can := allWritten
  control_roll := allWritten

def frame (received_at_ms : UInt64) (identifier : UInt16) : RawCanRecord where
  received_at_ms := received_at_ms
  identifier := identifier
  data_length := 8
  data := #v[0, 2, 0xf0, 0x7f, 0x0f, 0xff, 1, 8]

/-- The second record comes while logging is stopped. -/
def toggled : List SdTurn :=
  [succeeding (.record (frame 5 0x100) true) true, succeeding .tick true,
    succeeding (.record (frame 7 0x101) false) false, succeeding (.record (frame 9 0x7ff) true) true,
    succeeding (.record (frame 18446744073709551615 0x10a) true) true]

theorem toggled_whole : ∀ t ∈ toggled, Whole t := by
  intro t ht
  simp only [toggled, List.mem_cons, List.not_mem_nil, or_false] at ht
  rcases ht with rfl | rfl | rfl | rfl | rfl <;> exact ⟨by decide, rfl, rfl⟩

theorem log_complete_and_readable_toggled : ∃ past w,
    Machine.Run machine (fun _ t => Whole t) past w ∧ w.sd_has_error = false ∧
      w.has_unflushed_data = true ∧
        (lines (w.can.written ++ w.can.pending)).map parse_row =
          [.ok (5, 0x100), .ok (9, 0x7ff), .ok (18446744073709551615, 0x10a)] := by
  obtain ⟨past, w, run, hok, hunflushed, hrequested⟩ : ∃ past w,
      Machine.Run machine (fun _ t => Whole t) past w ∧ w.sd_has_error = false ∧
        w.has_unflushed_data = true ∧
          (requested past).map (fun record => (record.received_at_ms, record.identifier)) =
            [(5, 0x100), (9, 0x7ff), (18446744073709551615, 0x10a)] :=
    Machine.exists_run (fun (w : SdWriter) past => w.sd_has_error = false ∧
      w.has_unflushed_data = true ∧
        (requested past).map (fun record => (record.received_at_ms, record.identifier)) =
          [(5, 0x100), (9, 0x7ff), (18446744073709551615, 0x10a)])
      toggled rfl (fun t ht _ => toggled_whole t ht) (by decide +kernel)
  obtain ⟨-, -, -, -, hparse, -⟩ := log_complete_and_readable run hok
  refine ⟨past, w, run, hok, hunflushed, hparse.trans ?_⟩
  have hrows := congrArg (List.map (@Except.ok RowError (UInt64 × UInt16))) hrequested
  rwa [List.map_map] at hrows

end Comboard.SdLog
