import Comboard.Code.GnssSetting
import Comboard.Lib.Greedy
import Mathlib.Data.List.Infix
import Mathlib.Data.UInt
import Mathlib.Tactic.IntervalCases

/-!
# The acknowledgements of the receiver

`AckParser` goes back to the start of a frame only in its first two bytes. So what follows `B5 62` is
read as ten bytes of one frame, whatever it is.
-/

namespace Comboard.Acknowledgement

open Lib AckParser

/-! ## The frame -/

/-- The checksum over the bytes behind the preamble, in sums. -/
def fletcher (bytes : List UInt8) : UInt8 × UInt8 := (bytes.sum, (bytes.inits.map List.sum).sum)

theorem checksum_eq (values : List UInt8) : checksum values = fletcher values := by
  induction values using List.reverseRecOn with
  | nil => rfl
  | append_singleton values value ih =>
    rw [checksum, List.foldl_append, ← checksum, ih]
    simp [fletcher, List.inits_append]

def frame (kind expected_class expected_id : UInt8) : List UInt8 :=
  let body := [0x05, kind, 0x02, 0x00, expected_class, expected_id]
  [0xB5, 0x62] ++ body ++ [(fletcher body).1, (fletcher body).2]

/-- Every command is a frame of class `06`. -/
theorem init_commands_frames : ∀ command ∈ INIT_COMMANDS, ∃ body,
    command = [0xB5, 0x62, 0x06] ++ body ++
      [(fletcher (0x06 :: body)).1, (fletcher (0x06 :: body)).2] := by
  intro command hcommand
  refine ⟨(command.take (command.length - 2)).drop 3, ?_⟩
  revert command
  decide +kernel

/-- What ten bytes acknowledge. -/
def acknowledged (expected_class expected_id : UInt8) (bytes : List UInt8) : Option AckOutcome :=
  if bytes = frame 0x01 expected_class expected_id then some .Ack
  else if bytes = frame 0x00 expected_class expected_id then some .Nak
  else none

theorem outcome_cells (b2 b3 b4 b5 b6 b7 b8 b9 expected_class expected_id : UInt8) :
    outcome #v[0xB5, 0x62, b2, b3, b4, b5, b6, b7, b8, b9] expected_class expected_id =
      acknowledged expected_class expected_id [0xB5, 0x62, b2, b3, b4, b5, b6, b7, b8, b9] := by
  have hchecksum : checksum ((#v[0xB5, 0x62, b2, b3, b4, b5, b6, b7, b8, b9].toList.take 8).drop 2) =
    fletcher [b2, b3, b4, b5, b6, b7] := checksum_eq _
  have hframe (kind : UInt8) : [0xB5, 0x62, b2, b3, b4, b5, b6, b7, b8, b9] =
      frame kind expected_class expected_id ↔
        (b2 = 0x05 ∧ b4 = 0x02 ∧ b5 = 0x00 ∧ b6 = expected_class ∧ b7 = expected_id) ∧ b3 = kind ∧
          b8 = (fletcher [b2, b3, b4, b5, b6, b7]).1 ∧
            b9 = (fletcher [b2, b3, b4, b5, b6, b7]).2 := by
    constructor
    · intro h
      simp only [frame, List.cons_append, List.nil_append, List.cons.injEq, and_true] at h
      obtain ⟨-, -, rfl, rfl, rfl, rfl, rfl, rfl, h8, h9⟩ := h
      exact ⟨⟨rfl, rfl, rfl, rfl, rfl⟩, rfl, h8, h9⟩
    · rintro ⟨⟨rfl, rfl, rfl, rfl, rfl⟩, rfl, h8, h9⟩
      rw [h8, h9]
      rfl
  unfold outcome acknowledged
  rw [hchecksum]
  simp only [hframe]
  generalize fletcher [b2, b3, b4, b5, b6, b7] = sums
  by_cases hbody : b2 = 0x05 ∧ b4 = 0x02 ∧ b5 = 0x00 ∧ b6 = expected_class ∧ b7 = expected_id
  · obtain ⟨rfl, rfl, rfl, rfl, rfl⟩ := hbody
    by_cases hsums : b8 = sums.1 ∧ b9 = sums.2
    · by_cases hack : b3 = 0x01
      · simp [hack, hsums]
      · by_cases hnak : b3 = 0x00 <;> simp [hack, hnak, hsums]
    · simp [hsums]
  · simp only [hbody, false_and, if_false]
    refine if_pos ?_
    by_contra hall
    simp only [not_or, not_not, Prod.mk.injEq] at hall
    obtain ⟨h2, -, ⟨h4, h5⟩, h6, h7, -⟩ := hall
    exact hbody ⟨h2, h4, h5, h6, h7⟩

theorem outcome_eq (bytes : Vector UInt8 10) (expected_class expected_id : UInt8)
    (hfirst : bytes.get 0 = 0xB5) (hsecond : bytes.get 1 = 0x62) :
    outcome bytes expected_class expected_id =
      acknowledged expected_class expected_id bytes.toList := by
  have hbytes : bytes = (#v[0xB5, 0x62, bytes[2], bytes[3], bytes[4], bytes[5], bytes[6], bytes[7],
      bytes[8], bytes[9]] : Vector UInt8 10) := by
    refine Vector.ext fun i hi => ?_
    interval_cases i
    · exact hfirst
    · exact hsecond
    all_goals rfl
  rw [hbytes]
  exact outcome_cells ..

theorem acknowledged_of_ne {bytes : List UInt8} {expected_class expected_id : UInt8}
    (h : acknowledged expected_class expected_id bytes ≠ none) :
    ∃ kind, bytes = frame kind expected_class expected_id := by
  unfold acknowledged at h
  split at h
  case isTrue hack => exact ⟨_, hack⟩
  split at h
  case isTrue hnak => exact ⟨_, hnak⟩
  exact absurd rfl h

/-! ## Byte after byte -/

section Stream

variable (expected_class expected_id : UInt8)

/-- A fresh parser after these bytes, and what it reported at the last of them. -/
def parse (bytes : List UInt8) : AckParser × Option AckOutcome :=
  bytes.foldl (fun s byte => s.1.push byte expected_class expected_id) (.new, none)

def reported (bytes : List UInt8) : Option AckOutcome := (parse expected_class expected_id bytes).2

theorem parse_snoc (bytes : List UInt8) (byte : UInt8) :
    parse expected_class expected_id (bytes ++ [byte]) =
      (parse expected_class expected_id bytes).1.push byte expected_class expected_id := by
  simp [parse]

/-- `B5 62` begins here. -/
def Preamble (stream : List UInt8) (i : Nat) : Prop :=
  stream[i]? = some 0xB5 ∧ stream[i + 1]? = some 0x62

/-- The parser takes the ten bytes from here for a frame. -/
def Window (stream : List UInt8) (i : Nat) : Prop := Opened (Preamble stream) 10 i

/-- The parser after `n` bytes of the stream: it holds those from `i` on. -/
structure Tracks (stream : List UInt8) (n i : Nat) (p : AckParser) : Prop where
  length : i + p.length = n
  closed : Closed (Preamble stream) 10 i
  held : ∀ j, (h : j < p.length) → stream[i + j]? = some (getElem p.bytes j (Nat.lt_trans h p.inside))
  first : 0 < p.length → stream[i]? = some 0xB5
  second : 1 < p.length → stream[i + 1]? = some 0x62

variable {expected_class expected_id} {stream : List UInt8} {n i : Nat} {p : AckParser} {x : UInt8}

theorem Tracks.preamble (h : Tracks stream n i p) (hlength : 1 < p.length) : Preamble stream i :=
  ⟨h.first (Nat.lt_trans Nat.zero_lt_one hlength), h.second hlength⟩

/-- The buffer is empty. -/
theorem tracks_empty (hclosed : Closed (Preamble stream) 10 n) (hlength : p.length = 0) :
    Tracks stream n n p where
  length := by rw [hlength, Nat.add_zero]
  closed := hclosed
  held j hj := by omega
  first hj := by omega
  second hj := by omega

/-- A byte that does not go on with the preamble leaves nothing behind. -/
theorem Tracks.dropped (h : Tracks stream n i p) (hx : stream[n]? = some x) (hlength : p.length ≤ 1)
    (hsecond : p.length = 1 → x ≠ 0x62) : Closed (Preamble stream) 10 n := by
  rw [← h.length]
  by_cases hone : p.length = 1
  · rw [hone]
    refine h.closed.skip ?_
    rintro ⟨-, hnext⟩
    rw [← hone, h.length, hx] at hnext
    exact hsecond hone (Option.some.inj hnext)
  · rw [show p.length = 0 by omega]
    exact h.closed

theorem not_preamble (hx : stream[n]? = some x) (hfirst : x ≠ 0xB5) : ¬ Preamble stream n := by
  rintro ⟨hstart, -⟩
  exact hfirst (Option.some.inj (hx.symm.trans hstart))

/-- A byte more in the buffer. -/
theorem Tracks.taken (h : Tracks stream n i p) (hx : stream[n]? = some x)
    (hfirst : p.length = 0 → x = 0xB5) (hsecond : p.length = 1 → x = 0x62)
    (hroom : p.length + 1 < 10) :
    Tracks stream (n + 1) i
      { bytes := p.bytes.set p.length x p.inside, length := p.length + 1, inside := hroom } where
  length := by
    have := h.length
    dsimp only
    omega
  closed := h.closed
  held j hj := by
    rw [Vector.getElem_set]
    split
    case isTrue hlast => rw [← hlast, h.length, hx]
    case isFalse hbefore =>
      dsimp only at hj
      exact h.held j (by omega)
  first _ := by
    by_cases hzero : p.length = 0
    · rw [← hfirst hzero, ← hx, ← h.length, hzero, Nat.add_zero]
    · exact h.first (Nat.pos_of_ne_zero hzero)
  second hlong := by
    dsimp only at hlong
    by_cases hone : p.length = 1
    · rw [← hsecond hone, ← hx, ← h.length, hone]
    · exact h.second (by omega)

/-- What a byte does to the parser. -/
theorem Tracks.push (h : Tracks stream n i p) (hx : stream[n]? = some x)
    (expected_class expected_id : UInt8) :
    ∃ i', Tracks stream (n + 1) i' (p.push x expected_class expected_id).1 := by
  have hlength := h.length
  unfold AckParser.push
  by_cases hzero : p.length = 0 ∧ x ≠ 0xb5
  · rw [if_pos hzero]
    have hclosed := h.dropped hx (by omega) (by omega)
    exact ⟨n + 1, tracks_empty (hclosed.skip (not_preamble hx hzero.2)) hzero.1⟩
  rw [if_neg hzero]
  by_cases hone : p.length = 1 ∧ x ≠ 0x62
  · rw [if_pos hone]
    have hclosed := h.dropped hx (by omega) fun _ => hone.2
    by_cases hstart : x = 0xb5
    · refine ⟨n, ?_, hclosed, ?_, ?_, ?_⟩
      · simp [hstart]
      · intro j hj
        obtain rfl : j = 0 := by
          simp [hstart] at hj
          exact hj
        rw [Nat.add_zero, hx, Vector.getElem_set_self]
      · rw [hx, hstart]
        exact fun _ => rfl
      · intro hlong
        simp [hstart] at hlong
    · exact ⟨n + 1, tracks_empty (hclosed.skip (not_preamble hx hstart)) (if_neg hstart)⟩
  rw [if_neg hone]
  dsimp only
  have hfirst (hlen : p.length = 0) : x = 0xB5 := by
    by_contra hne
    exact hzero ⟨hlen, hne⟩
  have hsecond (hlen : p.length = 1) : x = 0x62 := by
    by_contra hne
    exact hone ⟨hlen, hne⟩
  by_cases hroom : p.length + 1 < 10
  · rw [dif_pos hroom]
    exact ⟨i, h.taken hx hfirst hsecond hroom⟩
  · rw [dif_neg hroom]
    have hinside := p.inside
    have hclosed := h.closed.over (h.preamble (by omega))
    rw [show i + 10 = n + 1 by omega] at hclosed
    exact ⟨n + 1, tracks_empty hclosed rfl⟩

/-- The buffer with its last byte holds the last ten bytes. -/
theorem Tracks.full (h : Tracks stream n i p) (hx : stream[n]? = some x) (hlength : p.length = 9) :
    (p.bytes.set p.length x p.inside).toList = (stream.take (n + 1)).drop i := by
  have hn : i + 9 = n := hlength ▸ h.length
  refine List.ext_getElem? fun j => ?_
  rw [List.getElem?_drop, List.getElem?_take, Vector.getElem?_toList]
  by_cases hj : j < 10
  · rw [if_pos (show i + j < n + 1 by omega), Vector.getElem?_eq_getElem hj, Vector.getElem_set]
    split
    case isTrue hlast => rw [← hlast, hlength, hn, hx]
    case isFalse hbefore => exact (h.held j (by omega)).symm
  · rw [if_neg (show ¬ i + j < n + 1 by omega), Vector.getElem?_eq_none (by omega)]

theorem push_none (hlength : p.length ≠ 9) (expected_class expected_id : UInt8) :
    (p.push x expected_class expected_id).2 = none := by
  have hinside := p.inside
  unfold AckParser.push
  split
  · rfl
  split
  · rfl
  dsimp only
  rw [dif_pos (by omega)]

theorem push_full (hlength : p.length = 9) (expected_class expected_id : UInt8) :
    (p.push x expected_class expected_id).2 =
      outcome (p.bytes.set p.length x p.inside) expected_class expected_id := by
  unfold AckParser.push
  rw [if_neg (by omega), if_neg (by omega)]
  dsimp only
  rw [dif_neg (by omega)]

theorem Tracks.push_outcome (h : Tracks stream n i p) (hx : stream[n]? = some x)
    (hlength : p.length = 9) (expected_class expected_id : UInt8) :
    (p.push x expected_class expected_id).2 =
      acknowledged expected_class expected_id ((stream.take (n + 1)).drop i) := by
  have hcell (j : Nat) (hj : j < 9) :
      some (getElem (p.bytes.set p.length x p.inside) j (by omega)) = stream[i + j]? := by
    rw [Vector.getElem_set_ne _ _ (by omega)]
    exact (h.held j (by omega)).symm
  have hfirst := (hcell 0 (by omega)).trans (h.first (by omega))
  have hsecond := (hcell 1 (by omega)).trans (h.second (by omega))
  rw [push_full hlength, outcome_eq _ _ _ (Option.some.inj hfirst) (Option.some.inj hsecond),
    h.full hx hlength]

/-- Something is reported where a window ends, and only there. -/
theorem Tracks.reports (h : Tracks stream n i p) (hx : stream[n]? = some x)
    (expected_class expected_id : UInt8) (o : AckOutcome) :
    (p.push x expected_class expected_id).2 = some o ↔
      ∃ j, j + 10 = n + 1 ∧ Window stream j ∧
        acknowledged expected_class expected_id ((stream.take (n + 1)).drop j) = some o := by
  have hlength := h.length
  constructor
  · intro hreported
    by_cases hnine : p.length = 9
    · rw [h.push_outcome hx hnine] at hreported
      exact ⟨i, by omega, h.closed.open (h.preamble (by omega)), hreported⟩
    · rw [push_none hnine] at hreported
      cases hreported
  · rintro ⟨j, hj, hwindow, hacknowledged⟩
    have hle := h.closed.le_of_opened hwindow (by omega)
    have hinside := p.inside
    obtain rfl : i = j := by omega
    rw [h.push_outcome hx (by omega)]
    exact hacknowledged

theorem parse_tracks (expected_class expected_id : UInt8) (hn : n ≤ stream.length) :
    ∃ i, Tracks stream n i (parse expected_class expected_id (stream.take n)).1 := by
  induction n with
  | zero => exact ⟨0, tracks_empty closed_zero rfl⟩
  | succ n ih =>
    obtain ⟨i, tracks⟩ := ih (by omega)
    have hx : stream[n]? = some stream[n] := List.getElem?_eq_getElem hn
    rw [List.take_succ_eq_append_getElem hn, parse_snoc]
    exact tracks.push hx expected_class expected_id

theorem reported_iff (expected_class expected_id : UInt8) (stream : List UInt8) (o : AckOutcome) :
    reported expected_class expected_id stream = some o ↔
      ∃ j, j + 10 = stream.length ∧ Window stream j ∧
        acknowledged expected_class expected_id (stream.drop j) = some o := by
  induction stream using List.reverseRecOn with
  | nil =>
    constructor
    · intro h
      cases h
    · rintro ⟨j, hj, -⟩
      rw [List.length_nil] at hj
      omega
  | append_singleton bytes x _ =>
    have hn : bytes.length < (bytes ++ [x]).length := by simp
    have hx : (bytes ++ [x])[bytes.length]? = some x := by simp
    obtain ⟨i, tracks⟩ := parse_tracks expected_class expected_id (Nat.le_of_lt hn)
    rw [List.take_left] at tracks
    have hreports := tracks.reports hx expected_class expected_id o
    have hlength : bytes.length + 1 = (bytes ++ [x]).length := by simp
    rwa [← parse_snoc, hlength, List.take_length] at hreports

end Stream

/-! ## Read after read -/

section Reads

variable {expected_class expected_id : UInt8}

/-- The first of these bytes at which something is reported. -/
def earliest (expected_class expected_id : UInt8) (bytes letters : List UInt8) : Option AckOutcome :=
  letters.inits.findSome? fun more => reported expected_class expected_id (bytes ++ more)

theorem earliest_none {bytes : List UInt8} (h : reported expected_class expected_id bytes = none)
    (x : UInt8) (letters : List UInt8) :
    earliest expected_class expected_id bytes (x :: letters) =
      earliest expected_class expected_id (bytes ++ [x]) letters := by
  simp [earliest, h, List.findSome?_map, Function.comp_def]

theorem earliest_some {bytes : List UInt8} {o : AckOutcome}
    (h : reported expected_class expected_id bytes = some o) (letters : List UInt8) :
    earliest expected_class expected_id bytes letters = some o := by
  cases letters <;> simp [earliest, h]

theorem earliest_append (bytes letters more : List UInt8) :
    earliest expected_class expected_id bytes (letters ++ more) =
      (earliest expected_class expected_id bytes letters).or
        (earliest expected_class expected_id (bytes ++ letters) more) := by
  induction letters generalizing bytes with
  | nil =>
    rw [List.append_nil, List.nil_append]
    cases hnow : reported expected_class expected_id bytes with
    | some o => rw [earliest_some hnow, earliest_some hnow, Option.some_or]
    | none => simp [earliest, hnow]
  | cons x letters ih =>
    have happend : bytes ++ x :: letters = bytes ++ [x] ++ letters := List.append_cons ..
    cases hnow : reported expected_class expected_id bytes with
    | some o => rw [earliest_some hnow, earliest_some hnow, Option.some_or]
    | none => rw [List.cons_append, earliest_none hnow, earliest_none hnow, ih, happend]

/-- One read, from where nothing has been reported. -/
theorem push_read_cases (letters : List UInt8) {bytes : List UInt8}
    (hnone : reported expected_class expected_id bytes = none) :
    (∃ p o, (parse expected_class expected_id bytes).1.push_read expected_class expected_id letters =
        (p, some o) ∧ earliest expected_class expected_id bytes letters = some o) ∨
      (parse expected_class expected_id bytes).1.push_read expected_class expected_id letters =
          parse expected_class expected_id (bytes ++ letters) ∧
        reported expected_class expected_id (bytes ++ letters) = none ∧
          earliest expected_class expected_id bytes letters = none := by
  induction letters generalizing bytes with
  | nil =>
    rw [List.append_nil]
    exact .inr ⟨Prod.ext rfl hnone.symm, hnone, by simp [earliest, hnone]⟩
  | cons x letters ih =>
    have hpush := (parse_snoc expected_class expected_id bytes x).symm
    have happend : bytes ++ x :: letters = bytes ++ [x] ++ letters := List.append_cons ..
    unfold push_read
    rw [hpush, earliest_none hnone, happend]
    cases hnow : reported expected_class expected_id (bytes ++ [x]) with
    | some o =>
      have hparse : parse expected_class expected_id (bytes ++ [x]) =
        ((parse expected_class expected_id (bytes ++ [x])).1, some o) := Prod.ext rfl hnow
      rw [hparse]
      exact .inl ⟨_, o, rfl, earliest_some hnow letters⟩
    | none =>
      have hparse : parse expected_class expected_id (bytes ++ [x]) =
        ((parse expected_class expected_id (bytes ++ [x])).1, none) := Prod.ext rfl hnow
      rw [hparse]
      exact ih hnow

theorem wait_eq (reads : List (List UInt8)) {bytes : List UInt8}
    (hnone : reported expected_class expected_id bytes = none) :
    (parse expected_class expected_id bytes).1.wait expected_class expected_id reads =
      earliest expected_class expected_id bytes reads.flatten := by
  induction reads generalizing bytes with
  | nil => simp [wait, earliest, hnone]
  | cons letters reads ih =>
    unfold wait
    rw [List.flatten_cons, earliest_append]
    rcases push_read_cases letters hnone with ⟨p, o, hread, hearliest⟩ | ⟨hread, hnow, hearliest⟩
    · rw [hread, hearliest]
      rfl
    · have hparse : parse expected_class expected_id (bytes ++ letters) =
        ((parse expected_class expected_id (bytes ++ letters)).1, none) := Prod.ext rfl hnow
      rw [hread, hparse, hearliest, Option.none_or]
      exact ih hnow

/-- The reads may be cut anywhere: what counts is the first byte at which something is reported. -/
theorem wait_for_ack_eq (expected_class expected_id : UInt8) (reads : List (List UInt8)) :
    wait_for_ack expected_class expected_id reads =
      reads.flatten.inits.findSome? (reported expected_class expected_id) :=
  @wait_eq expected_class expected_id reads [] rfl

end Reads

/-! ## Missed acknowledgements -/

/-- Byte `i` belongs to ten bytes that began before it. -/
def Swallowed (stream : List UInt8) (i : Nat) : Prop := ∃ j, Window stream j ∧ j < i ∧ i < j + 10

/-- The last ten bytes. -/
def lastTen (stream : List UInt8) : List UInt8 := stream.drop (stream.length - 10)

theorem preamble_of_acknowledged {expected_class expected_id : UInt8} {stream : List UInt8}
    (h : acknowledged expected_class expected_id (lastTen stream) ≠ none) :
    Preamble stream (stream.length - 10) ∧ 10 ≤ stream.length := by
  obtain ⟨kind, hframe⟩ := acknowledged_of_ne h
  have hbyte (i : Nat) : stream[stream.length - 10 + i]? = (frame kind expected_class expected_id)[i]? := by
    rw [← hframe, lastTen, List.getElem?_drop]
  have hlength := congrArg List.length hframe
  rw [lastTen, List.length_drop] at hlength
  refine ⟨⟨hbyte 0, hbyte 1⟩, ?_⟩
  have : (frame kind expected_class expected_id).length = 10 := rfl
  omega

/-- Nothing else is taken for an acknowledgement. One is missed if and only if it begins in ten bytes
that were opened by an earlier `B5 62`. -/
theorem reported_iff_not_swallowed (expected_class expected_id : UInt8) (stream : List UInt8) :
    (∀ o, reported expected_class expected_id stream = some o →
        acknowledged expected_class expected_id (lastTen stream) = some o) ∧
      (reported expected_class expected_id stream =
          acknowledged expected_class expected_id (lastTen stream) ↔
        ¬ (acknowledged expected_class expected_id (lastTen stream) ≠ none ∧
          Swallowed stream (stream.length - 10))) := by
  have hsound : ∀ o, reported expected_class expected_id stream = some o →
      acknowledged expected_class expected_id (lastTen stream) = some o := by
    intro o hreported
    obtain ⟨j, hj, -, hacknowledged⟩ := (reported_iff ..).mp hreported
    unfold lastTen
    rwa [show stream.length - 10 = j by omega]
  refine ⟨hsound, ?_⟩
  constructor
  · rintro heq ⟨hsome, j, hwindow, hbefore, hinside⟩
    obtain ⟨o, ho⟩ := Option.ne_none_iff_exists'.mp hsome
    obtain ⟨k, hk, hwindow', -⟩ := (reported_iff ..).mp (heq.trans ho)
    have := (opened_iff.mp hwindow').2 j (by omega) hwindow
    omega
  · intro hnot
    cases hlast : acknowledged expected_class expected_id (lastTen stream) with
    | none =>
      cases hreported : reported expected_class expected_id stream with
      | none => rfl
      | some o =>
        rw [hsound o hreported] at hlast
        cases hlast
    | some o =>
      have hsome : acknowledged expected_class expected_id (lastTen stream) ≠ none := by simp [hlast]
      obtain ⟨hpreamble, hlength⟩ := preamble_of_acknowledged hsome
      refine (reported_iff ..).mpr ⟨stream.length - 10, by omega, ?_, hlast⟩
      refine opened_iff.mpr ⟨hpreamble, fun j hj hwindow => ?_⟩
      refine Nat.le_of_not_lt fun hinside => ?_
      exact hnot ⟨hsome, j, hwindow, hj, hinside⟩

/-- A truncated frame and an acknowledgement. -/
def behindTruncated : List UInt8 := [0xB5, 0x62] ++ frame 0x01 0x06 0x01

theorem behindTruncated_missed : ¬ ∀ command ∈ INIT_COMMANDS, ∀ stream,
    reported (command.getD 2 0) (command.getD 3 0) stream =
      acknowledged (command.getD 2 0) (command.getD 3 0) (lastTen stream) := by
  intro h
  have hmissed := h GLL_DELETE (by decide) behindTruncated
  revert hmissed
  decide

end Comboard.Acknowledgement
