import Comboard.Code.Uplink
import Comboard.Lib.Buffer
import Comboard.Lib.Frames
import Mathlib.Data.List.TakeWhile

/-!
# The uplink frame buffer is a greedy scan

Between two bytes the buffer holds what the scan of the stream keeps.
-/

namespace Comboard.Framing

open Lib

/-- The format of the uplink frames. -/
def uplink : Format UInt8 (Except UplinkDecodeError UplinkCommand) where
  head byte := byte = UPLINK_HEADER
  length := UPLINK_FRAME_LENGTH
  positive := Nat.pos_of_neZero UPLINK_FRAME_LENGTH
  decode bytes := decode_uplink (pad UPLINK_FRAME_LENGTH 0 bytes)
  accepts result := result.isOk

/-- The bytes of one read, pushed in turn. -/
def push_read (buffer : UplinkFrameBuffer) :
    List UInt8 → Option (UplinkFrameBuffer × List (Except UplinkDecodeError UplinkCommand))
  | [] => some (buffer, [])
  | byte :: rest =>
    match buffer.push byte with
    | none => none
    | some (buffer, result) =>
      match push_read buffer rest with
      | none => none
      | some (buffer, results) => some (buffer, result.toList ++ results)

/-- One read after the other. -/
def push_reads (buffer : UplinkFrameBuffer) :
    List (List UInt8) → Option (UplinkFrameBuffer × List (Except UplinkDecodeError UplinkCommand))
  | [] => some (buffer, [])
  | read :: rest =>
    match push_read buffer read with
    | none => none
    | some (buffer, results) =>
      match push_reads buffer rest with
      | none => none
      | some (buffer, later) => some (buffer, results ++ later)

/-- The buffer holds `bytes`. -/
structure Holds (buffer : UplinkFrameBuffer) (bytes : List UInt8) : Prop where
  length : buffer.length = bytes.length
  bytes : buffer.bytes.toList.take bytes.length = bytes

theorem holds_nil {buffer : UplinkFrameBuffer} (h : buffer.length = 0) : Holds buffer [] :=
  ⟨h, by simp⟩

/-! ## One byte -/

theorem copy_within_take (bytes : Vector UInt8 UPLINK_FRAME_LENGTH) (start : Nat) :
    (UplinkFrameBuffer.copy_within bytes start).toList.take (UPLINK_FRAME_LENGTH - start) =
      bytes.toList.drop start := by
  apply List.ext_getElem
  · simp
  · intro i h₁ h₂
    have : start + i < UPLINK_FRAME_LENGTH := by simp at h₂; omega
    simp [UplinkFrameBuffer.copy_within, this]

theorem take_set {bytes : Vector UInt8 UPLINK_FRAME_LENGTH} {held : List UInt8} {byte : UInt8}
    (h : held.length < UPLINK_FRAME_LENGTH) (hheld : bytes.toList.take held.length = held) :
    (bytes.set held.length byte).toList.take (held.length + 1) = held ++ [byte] := by
  rw [Vector.toList_set, List.take_add_one, List.take_set_of_le (Nat.le_refl _), hheld]
  simp [h]

theorem pad_toList (bytes : Vector UInt8 UPLINK_FRAME_LENGTH) :
    pad UPLINK_FRAME_LENGTH 0 bytes.toList = bytes := by
  ext i hi
  simp [getElem_pad, List.getD_eq_getElem?_getD, hi]

/-- A buffer that is not full takes the byte. -/
theorem Holds.snoc {buffer : UplinkFrameBuffer} {held : List UInt8} (h : Holds buffer held)
    (hroom : held.length < UPLINK_FRAME_LENGTH) (byte : UInt8) :
    Holds { bytes := buffer.bytes.set held.length byte, length := held.length + 1 }
      (held ++ [byte]) where
  length := by simp
  bytes := by
    rw [List.length_append, List.length_singleton]
    exact take_set hroom h.bytes

/-- The first byte of a frame, or one that is passed over. -/
theorem push_first {buffer : UplinkFrameBuffer} (h : Holds buffer []) (byte : UInt8) :
    ∃ buffer', buffer.push byte = some (buffer', none) ∧ Holds buffer' (uplink.kept [byte]) := by
  unfold UplinkFrameBuffer.push
  have hlength : buffer.length = 0 := h.length
  rw [if_pos hlength, uplink.kept_of_short (l := [byte]) (by simp [uplink, UPLINK_FRAME_LENGTH])]
  by_cases hbyte : byte = UPLINK_HEADER
  · rw [if_neg (by simpa using hbyte), List.dropWhile_cons_of_neg (by simp [uplink, hbyte])]
    exact ⟨_, rfl, h.snoc (by decide) byte⟩
  · rw [if_pos hbyte, List.dropWhile_cons_of_pos (by simp [uplink, hbyte])]
    exact ⟨_, rfl, h⟩

/-- After a frame that is not accepted, the next header in it and what follows move to the front. -/
theorem push_resync {bytes : Vector UInt8 UPLINK_FRAME_LENGTH} {rest : List UInt8}
    (hrest : bytes.toList.drop 1 = rest) :
    match rest.findIdx? (· = UPLINK_HEADER) with
    | some next_header =>
      Holds { bytes := UplinkFrameBuffer.copy_within bytes (next_header + 1)
              length := UPLINK_FRAME_LENGTH - (next_header + 1) }
        (rest.dropWhile fun byte => !uplink.head byte)
    | none => rest.dropWhile (fun byte => !uplink.head byte) = [] := by
  have hlen : rest.length = 10 := by rw [← hrest]; simp
  split <;> rename_i hfind
  · rename_i next_header
    rw [List.findIdx?_eq_some_iff_findIdx_eq] at hfind
    obtain ⟨hlt, hfind⟩ := hfind
    have hdrop : rest.dropWhile (fun byte => !uplink.head byte) = rest.drop next_header := by
      rw [List.dropWhile_eq_drop_findIdx_not, ← hfind]
      simp [uplink]
    have hbytes := copy_within_take bytes (next_header + 1)
    rw [hdrop]
    constructor
    · rw [List.length_drop, hlen]
      exact Nat.add_sub_add_right 10 1 next_header
    · rw [List.length_drop, hlen, ← hrest, List.drop_drop, Nat.add_comm 1, ← hbytes]
      exact congrArg (List.take · _) (Nat.add_sub_add_right 10 1 next_header).symm
  · rw [List.dropWhile_eq_nil_iff]
    intro byte hbyte
    rw [List.findIdx?_eq_none_iff] at hfind
    simpa [uplink] using hfind byte hbyte

theorem push_spec {buffer : UplinkFrameBuffer} {held : List UInt8} (h : Holds buffer held)
    (hopen : uplink.Open held) (byte : UInt8) (i : Nat) :
    ∃ buffer' result, buffer.push byte = some (buffer', result) ∧
      result.toList = (uplink.scan i (held ++ [byte])).map (·.2) ∧
      Holds buffer' (uplink.kept (held ++ [byte])) := by
  have hroom : held.length < UPLINK_FRAME_LENGTH := hopen.short
  by_cases hnil : held = []
  · subst hnil
    obtain ⟨buffer', hpush, hheld⟩ := push_first h byte
    have hscan : uplink.scan i ([] ++ [byte]) = [] :=
      uplink.scan_of_short i (by simp [uplink, UPLINK_FRAME_LENGTH])
    exact ⟨buffer', none, hpush, by rw [hscan]; rfl, hheld⟩
  have hpos : 0 < held.length := List.length_pos_iff.mpr hnil
  have hsnoc := h.snoc hroom byte
  unfold UplinkFrameBuffer.push
  rw [if_neg (by rw [h.length]; omega), dif_pos (by rw [h.length]; exact hroom)]
  simp only [h.length]
  by_cases hshort : held.length + 1 < UPLINK_FRAME_LENGTH
  · rw [if_pos (by omega)]
    refine ⟨_, none, rfl, ?_, ?_⟩
    · rw [uplink.scan_of_short i (by rw [List.length_append]; exact hshort)]; rfl
    · obtain ⟨head, tail, rfl⟩ := List.exists_cons_of_ne_nil hnil
      rw [List.cons_append, Format.kept_short (hopen.head head (by simp))
        (by rw [List.length_append]; exact hshort)]
      exact hsnoc
  · rw [if_neg (by omega)]
    have hfull : held.length + 1 = UPLINK_FRAME_LENGTH := by omega
    obtain ⟨hscan, hkept⟩ := hopen.complete hnil (a := byte) hfull i
    generalize hbytes : buffer.bytes.set held.length byte = bytes at hsnoc ⊢
    have hlist : bytes.toList = held ++ [byte] := by
      have := hsnoc.bytes
      rwa [List.length_append, List.length_singleton, hfull, List.take_of_length_le (by simp)] at this
    have hdecode : uplink.decode (held ++ [byte]) = decode_uplink bytes := by
      rw [← hlist]
      exact congrArg decode_uplink (pad_toList bytes)
    rw [hscan, hkept, hdecode]
    cases hresult : decode_uplink bytes with
    | ok command =>
      exact ⟨_, _, rfl, rfl, by rw [if_pos (by rfl)]; exact holds_nil rfl⟩
    | error error =>
      rw [if_neg (by simp [uplink, Except.isOk, Except.toBool])]
      have htail : bytes.toList.drop 1 = held.tail ++ [byte] := by
        rw [hlist, List.drop_one, List.tail_append_of_ne_nil hnil]
      have hresync := push_resync htail
      rw [htail]
      dsimp only
      cases hfind : (held.tail ++ [byte]).findIdx? (· = UPLINK_HEADER) with
      | some next_header =>
        rw [hfind] at hresync
        exact ⟨_, _, rfl, rfl, hresync⟩
      | none =>
        rw [hfind] at hresync
        exact ⟨_, _, rfl, rfl, by rw [hresync]; exact holds_nil rfl⟩

/-! ## Any stream, in any reads -/

theorem push_read_spec {buffer : UplinkFrameBuffer} {past : List UInt8} (stream : List UInt8)
    (h : Holds buffer (uplink.kept past)) :
    ∃ buffer' results, push_read buffer stream = some (buffer', results) ∧
      (uplink.scan 0 past).map (·.2) ++ results = (uplink.scan 0 (past ++ stream)).map (·.2) ∧
      Holds buffer' (uplink.kept (past ++ stream)) := by
  induction stream generalizing buffer past with
  | nil => exact ⟨buffer, [], rfl, by simp, by simpa using h⟩
  | cons byte rest ih =>
    obtain ⟨buffer₁, result, hpush, hresult, hheld⟩ :=
      push_spec h (uplink.open_kept past) byte (0 + (past.length - (uplink.kept past).length))
    rw [← uplink.kept_append] at hheld
    obtain ⟨buffer₂, results, hread, hresults, hheld'⟩ := ih hheld
    refine ⟨buffer₂, result.toList ++ results, ?_, ?_, ?_⟩
    · rw [push_read, hpush]
      dsimp only
      rw [hread]
    · rw [List.append_cons, ← hresults, uplink.scan_append 0 past [byte], List.map_append, hresult,
        List.append_assoc]
    · rwa [List.append_cons]

theorem push_reads_spec {buffer : UplinkFrameBuffer} {past : List UInt8}
    (reads : List (List UInt8)) (h : Holds buffer (uplink.kept past)) :
    ∃ buffer' results, push_reads buffer reads = some (buffer', results) ∧
      (uplink.scan 0 past).map (·.2) ++ results =
        (uplink.scan 0 (past ++ reads.flatten)).map (·.2) := by
  induction reads generalizing buffer past with
  | nil => exact ⟨buffer, [], rfl, by simp⟩
  | cons read rest ih =>
    obtain ⟨buffer₁, results, hread, hresults, hheld⟩ := push_read_spec read h
    obtain ⟨buffer₂, later, hreads, hlater⟩ := ih hheld
    refine ⟨buffer₂, results ++ later, ?_, ?_⟩
    · rw [push_reads, hread]
      dsimp only
      rw [hreads]
    · rw [List.flatten_cons, ← List.append_assoc, ← List.append_assoc, ← hlater, ← hresults]

/-- A frame of the stream at `j` that decodes. -/
structure ValidFrame (stream : List UInt8) (j : Nat) (command : UplinkCommand) : Prop where
  complete : j + UPLINK_FRAME_LENGTH ≤ stream.length
  decodes : uplink.decode (uplink.window stream j) = .ok command

theorem decode_header {bytes : Vector UInt8 UPLINK_FRAME_LENGTH} {command : UplinkCommand}
    (h : decode_uplink bytes = .ok command) : bytes[0] = UPLINK_HEADER := by
  by_contra hheader
  rw [decode_uplink, if_pos hheader] at h
  cases h

/-- A window that decodes starts with a header. -/
theorem ValidFrame.header {stream : List UInt8} {j : Nat} {command : UplinkCommand}
    (h : ValidFrame stream j command) : ∀ byte ∈ stream[j]?, uplink.head byte = true := by
  intro byte hbyte
  have hfirst := decode_header h.decodes
  have hwindow : (uplink.window stream j).getD 0 0 = byte := by
    rw [Format.window, List.getD_eq_getElem?_getD, List.getElem?_take_of_lt (by simp [uplink]),
      List.getElem?_drop, Nat.add_zero, hbyte]
    rfl
  rw [getElem_pad, hwindow] at hfirst
  simpa [uplink] using hfirst

/-- What the windows of a scan have to do with the stream. -/
structure Framed (stream : List UInt8)
    (windows : List (Nat × Except UplinkDecodeError UplinkCommand)) : Prop where
  /-- No byte of an accepted frame is used in a later window. -/
  later : windows.Pairwise fun w w' => w.1 < w'.1 ∧
    (w.2.isOk = true → w.1 + UPLINK_FRAME_LENGTH ≤ w'.1)
  decoded : ∀ j result, (j, result) ∈ windows → j + UPLINK_FRAME_LENGTH ≤ stream.length ∧
    stream[j]? = some UPLINK_HEADER ∧ result = uplink.decode (uplink.window stream j)
  /-- A valid frame that does not start inside an accepted one is decoded once. -/
  finds : ∀ j command, ValidFrame stream j command →
    (∀ k earlier, (k, .ok earlier) ∈ windows → ¬ (k < j ∧ j < k + UPLINK_FRAME_LENGTH)) →
      (windows.map (·.1)).count j = 1 ∧ (j, .ok command) ∈ windows

theorem framed_scan (stream : List UInt8) : Framed stream (uplink.scan 0 stream) := by
  refine ⟨uplink.scan_later 0 stream, ?_, ?_⟩
  · intro j result hmem
    obtain ⟨k, rfl, hk, hhead, rfl⟩ := uplink.mem_scan hmem
    rw [Nat.zero_add]
    have hlt : k < stream.length := by
      have := uplink.positive
      omega
    refine ⟨hk, ?_, rfl⟩
    rw [List.getElem?_eq_getElem hlt] at hhead ⊢
    simpa [uplink] using hhead
  · intro j command hvalid hclear
    have hfound : (0 + j, _) ∈ uplink.scan 0 stream :=
      uplink.scan_finds hvalid.complete hvalid.header (by rw [hvalid.decodes]; rfl) ?_
    · rw [Nat.zero_add, hvalid.decodes] at hfound
      exact ⟨List.count_eq_one_of_mem (uplink.scan_once 0 stream)
        (List.mem_map_of_mem hfound), hfound⟩
    · intro k result hmem haccepts
      rw [Nat.zero_add] at hmem
      cases result with
      | ok earlier => exact hclear k earlier hmem
      | error error => simp [uplink, Except.isOk, Except.toBool] at haccepts

/-- The outputs of the frame buffer are those of the greedy scan of the whole stream, however it is
cut into reads. No push panics. -/
theorem uplink_framing (reads : List (List UInt8)) :
    (∃ buffer, push_reads UplinkFrameBuffer.new reads =
        some (buffer, (uplink.scan 0 reads.flatten).map (·.2))) ∧
      Framed reads.flatten (uplink.scan 0 reads.flatten) := by
  refine ⟨?_, framed_scan _⟩
  have hnew : Holds .new (uplink.kept []) := by simpa [Format.kept] using holds_nil rfl
  obtain ⟨buffer, results, hreads, hresults⟩ := push_reads_spec reads hnew
  refine ⟨buffer, ?_⟩
  rw [hreads, ← List.nil_append reads.flatten, ← hresults]
  simp [Format.scan]

end Comboard.Framing
