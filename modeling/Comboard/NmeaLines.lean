import Comboard.Code.GnssLine
import Comboard.GnssState
import Comboard.Lib.Buffer
import Comboard.Lib.Lines

/-!
# The sentences of the UART

Between two commands the manager offers the same sentences however the bytes are cut into reads. What is
kept of an unfinished line can be told from its bytes alone.
-/

namespace Comboard.NmeaLines

open Lib Gnss GnssState

variable {F : Type} {f : GnssFunctions F}

/-! ## What a line offers -/

/-- From the last `$` on, without `\r`. -/
def text (line : List UInt8) : List UInt8 :=
  36 :: (line.rtakeWhile (· ≠ 36)).filter (· ≠ 13)

def sentence (line : List UInt8) : Option GnssPacket :=
  if 36 ∈ line ∧ (text line).length ≤ 90 then some (pad 90 0 (text line)) else none

def sentences (bytes : List UInt8) : List GnssPacket := (ended 10 bytes).filterMap sentence

theorem sentences_snoc {x : UInt8} (hx : x ≠ 10) (bytes : List UInt8) :
    sentences (bytes ++ [x]) = sentences bytes := by
  unfold sentences
  rw [ended_snoc hx]

theorem sentences_newline (bytes : List UInt8) :
    sentences (bytes ++ [10]) = sentences bytes ++ (sentence (unended 10 bytes)).toList := by
  unfold sentences
  rw [ended_concat_self, List.filterMap_append]
  cases hline : sentence (unended 10 bytes) <;> simp [hline]

theorem sentences_grow (bytes more : List UInt8) :
    sentences bytes <+: sentences (bytes ++ more) :=
  (ended_grows bytes more).filterMap sentence

/-! ## The unfinished line -/

/-- What the buffer would hold if it had no end. -/
def unbounded (line : List UInt8) : List UInt8 :=
  (if 36 ∈ line then [36] else []) ++ (line.rtakeWhile (· ≠ 36)).filter (· ≠ 13)

theorem unbounded_nil : unbounded [] = [] := by simp [unbounded]

theorem unbounded_dollar (line : List UInt8) : unbounded (line ++ [36]) = [36] := by
  simp [unbounded]

theorem unbounded_return (line : List UInt8) : unbounded (line ++ [13]) = unbounded line := by
  simp [unbounded]

theorem unbounded_letter {x : UInt8} (hdollar : x ≠ 36) (hreturn : x ≠ 13) (line : List UInt8) :
    unbounded (line ++ [x]) = unbounded line ++ [x] := by
  simp [unbounded, hdollar, hreturn, hdollar.symm]

theorem unbounded_of_mem {line : List UInt8} (h : 36 ∈ line) : unbounded line = text line := by
  simp [unbounded, text, h]

/-- A line without `$` does not begin with one. -/
theorem head_unbounded (line : List UInt8) : (unbounded line).head? = some 36 ↔ 36 ∈ line := by
  constructor
  · intro hhead
    by_contra hmem
    have hno : 36 ∉ unbounded line := by
      unfold unbounded
      rw [if_neg hmem, List.nil_append, List.mem_filter]
      exact fun h => hmem ((List.rtakeWhile_suffix _ line).mem h.1)
    exact hno (List.mem_of_mem_head? hhead)
  · intro hmem
    rw [unbounded_of_mem hmem]
    rfl

def bufferOf (line : List UInt8) : LineBuffer where
  line := (unbounded line).take 90
  discard_line := 90 < (unbounded line).length

theorem bufferOf_nil : bufferOf [] = .new := by
  simp [bufferOf, unbounded_nil, LineBuffer.new]

theorem push_letter {x : UInt8} (hx : x ≠ 10) (line : List UInt8) :
    (bufferOf line).push x = (bufferOf (line ++ [x]), none) := by
  unfold LineBuffer.push
  split
  case isTrue hdollar => simp [bufferOf, hdollar, unbounded_dollar]
  rename_i hdollar
  split
  case isTrue hreturn => simp [bufferOf, hreturn, unbounded_return]
  rename_i hreturn
  unfold bufferOf
  rw [unbounded_letter hdollar hreturn]
  generalize unbounded line = kept
  rw [List.length_take]
  by_cases hroom : kept.length < 90
  · rw [if_pos (by omega), List.take_of_length_le (by omega),
      List.take_of_length_le (by simp; omega)]
    simp
    omega
  · rw [if_neg (by omega), List.take_append_of_le_length (by omega)]
    simp
    omega

theorem push_newline (line : List UInt8) :
    ((bufferOf line).push 10).1 = bufferOf [] ∧
      ((bufferOf line).push 10).2.map LineBuffer.send_buf = sentence line := by
  refine ⟨bufferOf_nil.symm, ?_⟩
  have hends : (bufferOf line).discard_line = true ↔ 90 < (unbounded line).length := by
    simp [bufferOf]
  have hhead : (bufferOf line).line.head? = some 36 ↔ 36 ∈ line := by
    rw [← head_unbounded line]
    simp [bufferOf, List.head?_take]
  unfold LineBuffer.push sentence
  by_cases hmem : 36 ∈ line
  · rw [unbounded_of_mem hmem] at hends
    by_cases hlong : (text line).length ≤ 90
    · have hline : (bufferOf line).line = text line := by
        unfold bufferOf
        rw [unbounded_of_mem hmem, List.take_of_length_le hlong]
      have hsend : LineBuffer.send_buf (text line) = pad 90 0 (text line) := rfl
      rw [hline] at hhead
      simp [hends, hhead, hmem, hlong, hline, hsend]
    · simp [hends, hmem, hlong]
  · simp [hhead, hmem]

/-- One letter more. -/
theorem push_after (bytes : List UInt8) (x : UInt8) :
    ∃ line, (bufferOf (unended 10 bytes)).push x = (bufferOf (unended 10 (bytes ++ [x])), line) ∧
      sentences (bytes ++ [x]) = sentences bytes ++ (line.map LineBuffer.send_buf).toList := by
  by_cases hx : x = 10
  · obtain ⟨hbuffer, hline⟩ := push_newline (unended 10 bytes)
    refine ⟨((bufferOf (unended 10 bytes)).push 10).2, ?_, ?_⟩
    · rw [hx, unended_concat_self, ← hbuffer]
    · rw [hx, sentences_newline, hline]
  · refine ⟨none, ?_, ?_⟩
    · rw [push_letter hx, unended_snoc hx]
    · rw [sentences_snoc hx]
      simp

/-! ## Read after read -/

/-- The loop over the letters stops behind a line that is offered, or at the end. -/
theorem read_cases (bytes letters : List UInt8) :
    ((bufferOf (unended 10 bytes)).read letters = (bufferOf (unended 10 (bytes ++ letters)), none) ∧
        sentences (bytes ++ letters) = sentences bytes) ∨
      ∃ handled rest sent, letters = handled ++ rest ∧
        (bufferOf (unended 10 bytes)).read letters =
          (bufferOf (unended 10 (bytes ++ handled)), some (sent, rest)) ∧
        sentences (bytes ++ handled) = sentences bytes ++ [sent] := by
  induction letters generalizing bytes with
  | nil =>
    rw [List.append_nil]
    exact .inl ⟨rfl, rfl⟩
  | cons x letters ih =>
    obtain ⟨line, hpush, hsentences⟩ := push_after bytes x
    unfold LineBuffer.read
    rw [hpush]
    cases line with
    | some line => exact .inr ⟨[x], letters, _, rfl, rfl, hsentences⟩
    | none =>
      rw [Option.map_none, Option.toList_none, List.append_nil] at hsentences
      have happend (l : List UInt8) : bytes ++ x :: l = bytes ++ [x] ++ l := List.append_cons ..
      rcases ih (bytes ++ [x]) with ⟨hread, hsame⟩ | ⟨handled, rest, sent, rfl, hread, hmore⟩
      · rw [happend letters]
        exact .inl ⟨hread, hsame.trans hsentences⟩
      · refine .inr ⟨x :: handled, rest, sent, rfl, ?_, ?_⟩
        · rw [happend handled]
          exact hread
        · rw [happend handled, hmore, hsentences]

/-- What the UART gives and `GNSS_CHANNEL` is offered. -/
inductive Traffic where
  | received (letter : UInt8)
  | offered (sentence : GnssPacket)

def look (w : Gnss F) : Gnss.Action → List Traffic
  | .read bytes _ => bytes.map .received
  | .manager _ =>
    match w.manager.point with
    | .Send sentence _ => [.offered sentence]
    | _ => []
  | _ => []

def uart (f : GnssFunctions F) : Machine (Gnss F) Gnss.Action Traffic := (machine f).observed look

def received (past : List Traffic) : List UInt8 :=
  past.filterMap fun
    | .received letter => some letter
    | .offered _ => none

def offered (past : List Traffic) : List GnssPacket :=
  past.filterMap fun
    | .received _ => none
    | .offered sentence => some sentence

/-- Between two commands. -/
def NoCommand (_ : Gnss F) : Gnss.Action → Prop
  | .receive _ => False
  | _ => True

/-- How far the manager has come with the bytes. -/
def Handling (m : Manager) (bytes : List UInt8) (sent : List GnssPacket) : Prop :=
  match m.point with
  | .Select => m.lines = bufferOf (unended 10 bytes) ∧ sent = sentences bytes
  | .Detect _ sentence rest | .Send sentence rest => ∃ handled,
    bytes = handled ++ rest ∧ m.lines = bufferOf (unended 10 handled) ∧
      sent ++ [sentence] = sentences handled
  | _ => False

theorem handling_letters {w : Gnss F} {bytes : List UInt8}
    (hlines : w.manager.lines = bufferOf (unended 10 bytes)) (letters : List UInt8) (now_ms : Nat) :
    Handling (w.step_letters letters now_ms).manager (bytes ++ letters) (sentences bytes) := by
  unfold step_letters
  rw [hlines]
  rcases read_cases bytes letters with ⟨hread, hsame⟩ | ⟨handled, rest, sent, rfl, hread, hmore⟩
  · rw [hread]
    exact ⟨rfl, hsame.symm⟩
  · rw [hread]
    exact ⟨bytes ++ handled, (List.append_assoc ..).symm, rfl, hmore.symm⟩

@[simp]
theorem received_append (past new : List Traffic) :
    received (past ++ new) = received past ++ received new := List.filterMap_append ..

@[simp]
theorem offered_append (past new : List Traffic) :
    offered (past ++ new) = offered past ++ offered new := List.filterMap_append ..

theorem received_map (bytes : List UInt8) : received (bytes.map .received) = bytes := by
  simp [received, List.filterMap_map]

theorem offered_map (bytes : List UInt8) : offered (bytes.map .received) = [] := by
  simp [offered]

/-- The other tasks leave the manager where it is. -/
theorem handling_elsewhere {w w' : Gnss F} {a : Gnss.Action} {past : List Traffic}
    (h : Handling w.manager (received past) (offered past)) (hlook : look w a = [])
    (hmanager : w'.manager = w.manager) :
    Handling w'.manager (received (past ++ look w a)) (offered (past ++ look w a)) := by
  rw [hlook, List.append_nil, hmanager]
  exact h

theorem handling_manager {w w' : Gnss F} {now_ms : Nat} {past : List Traffic}
    {reports : List Gnss.Report} (h : Handling w.manager (received past) (offered past))
    (hstep : ManagerStep w now_ms w' reports) :
    Handling w'.manager (received (past ++ look w (.manager now_ms)))
      (offered (past ++ look w (.manager now_ms))) := by
  unfold Handling at h
  cases hstep with
  | detect hpoint =>
    simp only [hpoint, look, List.append_nil] at h ⊢
    exact h
  | @send sentence rest gnss_channel hpoint =>
    simp only [hpoint] at h
    obtain ⟨handled, hreceived, hlines, hsent⟩ := h
    have hlook : look w (.manager now_ms) = [.offered sentence] := by simp only [look, hpoint]
    have hnothing : received [.offered sentence] = [] := rfl
    have hsentence : offered [.offered sentence] = [sentence] := rfl
    rw [hlook, received_append, offered_append, hreceived, hnothing, List.append_nil, hsentence, hsent]
    exact handling_letters (w := { w with shared := { w.shared with gnss_channel } }) hlines rest now_ms
  | _ hpoint => simp only [hpoint] at h

theorem handling_step {w w' : Gnss F} {a : Gnss.Action} {past new : List Traffic}
    (h : Handling w.manager (received past) (offered past)) (hok : NoCommand w a)
    (hstep : (uart f).step w a = some (w', new)) :
    Handling w'.manager (received (past ++ new)) (offered (past ++ new)) := by
  obtain ⟨rfl, reports, hstep⟩ := Machine.observed_step hstep
  cases stepped hstep with
  | @read bytes now_ms hpoint =>
    unfold Handling at h
    simp only [hpoint] at h
    rw [received_append, offered_append, look, received_map, offered_map, List.append_nil, h.2]
    exact handling_letters h.1 bytes now_ms
  | receive => exact hok.elim
  | configured hpoint =>
    unfold Handling at h
    simp only [hpoint] at h
  | manager h' => exact handling_manager h h'
  | parser h' => exact handling_elsewhere h rfl h'.elsewhere.manager
  | response h' => exact handling_elsewhere h rfl (response_elsewhere (f := f) h').manager
  | receive_sentence | tick => exact handling_elsewhere h rfl rfl
  | @poll request =>
    refine handling_elsewhere h rfl ?_
    unfold step_poll
    split
    · rfl
    · split <;> rfl

theorem handling_run {w₀ w : Gnss F} {past : List Traffic} (hpoint : w₀.manager.point = .Select)
    (hlines : w₀.manager.lines = .new)
    (run : Machine.Run ((uart f).startingIn w₀) NoCommand past w) :
    Handling w.manager (received past) (offered past) := by
  refine run.invariant (I := fun past w => Handling w.manager (received past) (offered past)) ?_ ?_
  · rintro _ rfl
    unfold Handling
    rw [hpoint]
    exact ⟨hlines.trans bufferOf_nil.symm, rfl⟩
  · intro past s a s' new _ h hok hstep
    exact handling_step h hok hstep

/-! ## To the end of a read -/

theorem read_shorter {b b' : LineBuffer} {letters rest : List UInt8} {sent : GnssPacket}
    (h : b.read letters = (b', some (sent, rest))) : rest.length < letters.length := by
  induction letters generalizing b with
  | nil => cases h
  | cons x letters ih =>
    unfold LineBuffer.read at h
    rw [List.length_cons]
    split at h
    · obtain ⟨-, hrest⟩ := Prod.mk.inj (Option.some.inj (Prod.mk.inj h).2)
      rw [hrest]
      exact Nat.lt_succ_self _
    · have := ih h
      omega

/-- How many steps the manager is at most away from `Select`. -/
def pending : ManagerPoint → Option Nat
  | .Select => some 0
  | .Detect _ _ rest => some (2 * rest.length + 2)
  | .Send _ rest => some (2 * rest.length + 1)
  | _ => none

theorem pending_letters (w : Gnss F) (letters : List UInt8) (now_ms : Nat) :
    ∃ k, pending (w.step_letters letters now_ms).manager.point = some k ∧ k ≤ 2 * letters.length := by
  unfold step_letters
  dsimp only
  split <;> rename_i hread
  · have := read_shorter (Prod.ext rfl hread)
    exact ⟨_, rfl, by omega⟩
  · exact ⟨0, rfl, Nat.zero_le _⟩

theorem pending_step {w : Gnss F} {k : Nat} (h : pending w.manager.point = some (k + 1))
    (now_ms : Nat) : ∃ w' j, w.step_manager now_ms = some (w', []) ∧
      pending w'.manager.point = some j ∧ j ≤ k := by
  unfold pending at h
  split at h <;> rename_i hpoint
  · cases h
  · obtain rfl := Nat.succ.inj (Option.some.inj h)
    refine ⟨_, _, by unfold step_manager; rw [hpoint], rfl, Nat.le_refl _⟩
  · obtain rfl := Nat.succ.inj (Option.some.inj h)
    obtain ⟨j, hj, hle⟩ := pending_letters _ _ now_ms
    exact ⟨_, j, by unfold step_manager; rw [hpoint], hj, hle⟩
  · cases h

theorem step_manager_uart {w w' : Gnss F} {now_ms : Nat}
    (h : w.step_manager now_ms = some (w', [])) :
    (uart f).step w (.manager now_ms) = some (w', look w (.manager now_ms)) :=
  Option.map_eq_some_iff.mpr ⟨_, h, rfl⟩

theorem received_manager (w : Gnss F) (now_ms : Nat) : received (look w (.manager now_ms)) = [] := by
  unfold look
  dsimp only
  split <;> rfl

/-- The manager needs nobody else to come back to `Select`. -/
theorem comes_back (f : GnssFunctions F) (now_ms k : Nat) {w : Gnss F}
    (h : pending w.manager.point = some k) :
    ∃ n w' later, (uart f).exec w (List.replicate n (.manager now_ms)) = some (w', later) ∧
      w'.manager.point = .Select ∧ received later = [] := by
  induction k using Nat.strongRecOn generalizing w with
  | ind k ih =>
    cases k with
    | zero =>
      refine ⟨0, w, [], rfl, ?_, rfl⟩
      unfold pending at h
      split at h <;> first | assumption | cases h
    | succ k =>
      obtain ⟨w₁, j, hstep, hj, hle⟩ := pending_step h now_ms
      obtain ⟨n, w', later, hexec, hselect, hreceived⟩ := ih j (by omega) hj
      refine ⟨n + 1, w', look w (.manager now_ms) ++ later, ?_, hselect, ?_⟩
      · simp only [List.replicate_succ, Machine.exec, step_manager_uart hstep, hexec, Option.map_some]
      · rw [received_append, received_manager, hreceived]
        rfl

theorem Handling.pending {m : Manager} {bytes : List UInt8} {sent : List GnssPacket}
    (h : Handling m bytes sent) : ∃ k, pending m.point = some k := by
  unfold Handling at h
  unfold NmeaLines.pending
  split at h <;> first | exact ⟨_, rfl⟩ | exact h.elim

/-! ## The buffer in its cells -/

structure Represents (a : LineArray) (b : LineBuffer) : Prop where
  bound : a.line_length ≤ 90
  line : b.line = a.line_buf.toList.take a.line_length
  discard_line : a.discard_line = b.discard_line

theorem Represents.length {a : LineArray} {b : LineBuffer} (h : Represents a b) :
    b.line.length = a.line_length := by
  rw [h.line, List.length_take, Vector.length_toList]
  exact Nat.min_eq_left h.bound

theorem represents_new (line_buf : GnssPacket) :
    Represents { line_buf, line_length := 0, discard_line := false } .new :=
  ⟨Nat.zero_le _, rfl, rfl⟩

/-- A letter behind the text. -/
theorem take_set (line_buf : GnssPacket) {i : Nat} (hi : i < 90) (letter : UInt8) :
    (line_buf.set i letter).toList.take (i + 1) = line_buf.toList.take i ++ [letter] := by
  rw [Vector.toList_set, List.take_succ_eq_append_getElem (by simpa using hi), List.getElem_set_self,
    List.take_set_of_le (Nat.le_refl i)]

theorem copy_eq {line_buf : GnssPacket} {line_length : Nat} (h : line_length ≤ 90) :
    LineArray.copy line_buf line_length =
      some (LineBuffer.send_buf (line_buf.toList.take line_length)) := by
  unfold LineArray.copy LineBuffer.send_buf
  rw [if_pos h]
  refine congrArg some (Vector.ext fun i hi => ?_)
  rw [Vector.getElem_ofFn, Vector.getElem_ofFn]
  by_cases hlt : i < line_length <;> simp [hlt, hi, List.getD_eq_getElem?_getD]

theorem head_eq {a : LineArray} {b : LineBuffer} (h : Represents a b) :
    (a.line_length > 0 ∧ a.line_buf.get 0 = 36) ↔ b.line.head? = some 36 := by
  rw [h.line, List.head?_take]
  by_cases hempty : a.line_length = 0
  · simp [hempty]
  · have hget : a.line_buf.get 0 = a.line_buf[0] := rfl
    simp [hempty, Nat.pos_of_ne_zero hempty, List.head?_eq_getElem?, hget]

theorem write_of_lt (line_buf : GnssPacket) {index : Nat} (h : index < 90) (letter : UInt8) :
    LineArray.write line_buf index letter = some (line_buf.set index letter) := by
  unfold LineArray.write
  rw [dif_pos h]

/-- A letter more keeps the cells in step with the text, and every index is in range. -/
theorem push_represents {a : LineArray} {b : LineBuffer} (h : Represents a b) (letter : UInt8) :
    ∃ a', a.push letter = some (a', (b.push letter).2.map LineBuffer.send_buf) ∧
      Represents a' (b.push letter).1 := by
  unfold LineArray.push LineBuffer.push
  by_cases hdollar : letter = 36
  · rw [if_pos hdollar, if_pos hdollar, write_of_lt _ (Nat.zero_lt_succ 89)]
    exact ⟨_, rfl, by simp, (take_set a.line_buf (Nat.zero_lt_succ 89) letter).symm, rfl⟩
  rw [if_neg hdollar, if_neg hdollar]
  by_cases hreturn : letter = 13
  · rw [if_pos hreturn, if_pos hreturn]
    exact ⟨a, rfl, h⟩
  rw [if_neg hreturn, if_neg hreturn]
  by_cases hnewline : letter = 10
  · rw [if_pos hnewline, if_pos hnewline]
    have hhead : (a.line_length > 0 ∧ a.line_buf[0] = 36) ↔ b.line.head? = some 36 := head_eq h
    simp only [hhead, h.discard_line, copy_eq h.bound, ← h.line]
    refine ⟨_, ?_, represents_new a.line_buf⟩
    split <;> rfl
  rw [if_neg hnewline, if_neg hnewline, h.length]
  by_cases hroom : a.line_length < 90
  · rw [if_pos hroom, if_pos hroom, write_of_lt _ hroom]
    refine ⟨_, rfl, hroom, ?_, h.discard_line⟩
    rw [h.line]
    exact (take_set a.line_buf hroom letter).symm
  · rw [if_neg hroom, if_neg hroom]
    exact ⟨_, rfl, h.bound, h.line, rfl⟩

theorem push_all_eq {a : LineArray} {bytes : List UInt8}
    (h : Represents a (bufferOf (unended 10 bytes))) (letters : List UInt8) :
    ∃ a' sent, a.push_all letters = some (a', sent) ∧
      sentences (bytes ++ letters) = sentences bytes ++ sent := by
  induction letters generalizing a bytes with
  | nil =>
    refine ⟨a, [], rfl, ?_⟩
    rw [List.append_nil, List.append_nil]
  | cons x letters ih =>
    obtain ⟨line, hpush, hsentences⟩ := push_after bytes x
    obtain ⟨a₁, hpushed, hrepresents⟩ := push_represents h x
    rw [hpush] at hpushed hrepresents
    obtain ⟨a', sent, hrest, hmore⟩ := ih hrepresents
    refine ⟨a', (line.map LineBuffer.send_buf).toList ++ sent, ?_, ?_⟩
    · simp [LineArray.push_all, hpushed, hrest]
    · rw [List.append_cons, hmore, hsentences, List.append_assoc]

/-- From an empty line no index is out of range, whatever else stands in the buffer. -/
theorem push_all_new (line_buf : GnssPacket) (bytes : List UInt8) :
    ∃ a, LineArray.push_all { line_buf, line_length := 0, discard_line := false } bytes =
      some (a, sentences bytes) := by
  have hnew : Represents { line_buf, line_length := 0, discard_line := false }
      (bufferOf (unended 10 [])) := by
    rw [unended_nil, bufferOf_nil]
    exact represents_new line_buf
  obtain ⟨a, sent, hall, hsentences⟩ := push_all_eq hnew bytes
  have hsent : sentences bytes = sent := hsentences
  exact ⟨a, by rw [hsent]; exact hall⟩

/-- From an empty line on, the manager offers the sentences of the bytes and no others, however these
are read. -/
theorem offers_sentences (f : GnssFunctions F) {w₀ w : Gnss F} {past : List Traffic}
    (hpoint : w₀.manager.point = .Select) (hlines : w₀.manager.lines = .new)
    (run : Machine.Run ((uart f).startingIn w₀) NoCommand past w) :
    offered past <+: sentences (received past) ∧
      (w.manager.point = .Select → offered past = sentences (received past)) ∧
      (∀ now_ms, ∃ n w' later,
        (uart f).exec w (List.replicate n (.manager now_ms)) = some (w', later) ∧
          w'.manager.point = .Select ∧ received later = [] ∧
          offered (past ++ later) = sentences (received past)) ∧
      ∀ line_buf, ∃ a, LineArray.push_all { line_buf, line_length := 0, discard_line := false }
        (received past) = some (a, sentences (received past)) := by
  have handling := handling_run hpoint hlines run
  have hselect {past : List Traffic} {w : Gnss F}
      (handling : Handling w.manager (received past) (offered past))
      (hselect : w.manager.point = .Select) : offered past = sentences (received past) := by
    unfold Handling at handling
    rw [hselect] at handling
    exact handling.2
  have begun {rest : List UInt8} {sentence : GnssPacket}
      (handling : ∃ handled, received past = handled ++ rest ∧
        w.manager.lines = bufferOf (unended 10 handled) ∧
          offered past ++ [sentence] = sentences handled) :
      offered past <+: sentences (received past) := by
    obtain ⟨handled, hreceived, -, hsent⟩ := handling
    have hbefore : offered past <+: sentences handled := hsent ▸ List.prefix_append _ _
    rw [hreceived]
    exact hbefore.trans (sentences_grow handled rest)
  refine ⟨?_, hselect handling, fun now_ms => ?_, fun line_buf => push_all_new line_buf _⟩
  · unfold Handling at handling
    split at handling
    · exact handling.2 ▸ List.prefix_rfl
    · exact begun handling
    · exact begun handling
    · exact handling.elim
  · obtain ⟨k, hpending⟩ := handling.pending
    obtain ⟨n, w', later, hexec, hback, hnothing⟩ := comes_back f now_ms k hpending
    refine ⟨n, w', later, hexec, hback, hnothing, ?_⟩
    have hok : ∀ a ∈ List.replicate n (.manager now_ms), ∀ w : Gnss F, NoCommand w a := by
      intro a ha w
      rw [(List.mem_replicate.mp ha).2]
      trivial
    have hlater := handling_run hpoint hlines
      (run.exec hok ((Machine.startingIn_exec w₀ w _).trans hexec))
    have hall := hselect hlater hback
    rwa [received_append, hnothing, List.append_nil] at hall

/-- A line in two reads, behind the end of another. -/
def twoReads : List Gnss.Action :=
  [.read [88, 10, 36, 65, 13] 0, .read [66, 10] 5, .manager 5, .manager 5]

theorem offers_sentences_two_reads : ∃ past w,
    Machine.Run ((uart atReference).startingIn start) NoCommand past w ∧
      received past = [88, 10, 36, 65, 13, 66, 10] ∧ offered past = [pad 90 0 [36, 65, 66]] ∧
        offered past <+: sentences (received past) := by
  obtain ⟨past, w, run, hreceived, hoffered⟩ : ∃ past w,
      Machine.Run ((uart atReference).startingIn start) NoCommand past w ∧
        received past = [88, 10, 36, 65, 13, 66, 10] ∧ offered past = [pad 90 0 [36, 65, 66]] :=
    Machine.exists_run
      (fun _ past => received past = [88, 10, 36, 65, 13, 66, 10] ∧
        offered past = [pad 90 0 [36, 65, 66]])
      twoReads rfl (by simp [twoReads, NoCommand]) (by decide +kernel)
  exact ⟨past, w, run, hreceived, hoffered, (offers_sentences atReference rfl rfl run).1⟩

end Comboard.NmeaLines
