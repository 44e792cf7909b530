import Comboard.Code.Recovery
import Comboard.Lib.Buffer

/-!
# The assembler cuts the source into chunks

One `push`, described by the bytes that the buffer holds.
-/

namespace Comboard.Assembler

open Lib RecoveryAssembler

/-- The buffer of `a` holds the bytes `held` and is zero behind them. -/
structure Holds (a : RecoveryAssembler) (held : List UInt8) : Prop where
  data : a.data = pad 16 0 held
  length : a.data_length.val = held.length

/-- The known end is at `p` or before. -/
def ended (limit : Option UInt32) (p : Nat) : Bool := limit.any (·.toNat ≤ p)

/-- How many bytes of a fragment lie before the known end. -/
def taken (limit : Option UInt32) (p : Nat) : Nat :=
  match limit with
  | none => 6
  | some total_size => min 6 (total_size.toNat - p)

theorem taken_le (limit : Option UInt32) (p : Nat) : taken limit p ≤ 6 := by
  unfold taken
  split <;> omega

theorem ended_iff {limit : Option UInt32} {p : Nat} :
    ended limit p = true ↔ ∃ total_size, limit = some total_size ∧ total_size.toNat ≤ p := by
  cases limit <;> simp [ended]

theorem taken_eq_zero {limit : Option UInt32} {p : Nat} :
    taken limit p = 0 ↔ ended limit p = true := by
  cases limit with
  | none => simp [taken, ended]
  | some total_size =>
    simp only [taken, ended, Option.any_some, decide_eq_true_eq]
    omega

/-! ## One turn of the loop -/

section Position

variable {a : RecoveryAssembler} {held : List UInt8}

theorem Holds.le (h : Holds a held) : held.length ≤ 16 := by
  have := a.data_length.isLt
  rw [h.length] at this
  omega

theorem Holds.position (h : Holds a held) (hfit : a.offset.toNat + held.length < 2 ^ 32) :
    a.position.toNat = a.offset.toNat + held.length := by
  rw [RecoveryAssembler.position, saturating_add_toNat, UInt32.toNat_ofNat', h.length]
  omega

theorem Holds.reached_end (h : Holds a held) (hfit : a.offset.toNat + held.length < 2 ^ 32) :
    a.reached_end = ended a.total_size (a.offset.toNat + held.length) := by
  unfold RecoveryAssembler.reached_end ended
  cases a.total_size with
  | none => rfl
  | some total_size =>
    rw [Option.any_some, Option.any_some, ← h.position hfit]
    simp [UInt32.le_iff_toNat_le]

theorem Holds.fragment_length (h : Holds a held) (hfit : a.offset.toNat + held.length < 2 ^ 32) :
    a.fragment_length = taken a.total_size (a.offset.toNat + held.length) := by
  unfold RecoveryAssembler.fragment_length taken
  cases a.total_size with
  | none => rfl
  | some total_size => simp only [saturating_sub_toNat, h.position hfit, Nat.min_comm]

end Position

/-- The bytes that a turn copies. -/
def piece (fragment : RecoveryLogData) (source copied : Nat) : List UInt8 :=
  (fragment.data.toList.drop source).take copied

theorem piece_length {fragment : RecoveryLogData} {source copied : Nat} (h : source + copied ≤ 6) :
    (piece fragment source copied).length = copied := by
  simp [piece]; omega

theorem piece_split (fragment : RecoveryLogData) {n k : Nat} (h : k ≤ n) :
    piece fragment 0 n = piece fragment 0 k ++ piece fragment k (n - k) := by
  have hadd : n = k + (n - k) := by omega
  simp only [piece, List.drop_zero]
  rw [hadd, List.take_add, ← hadd]

theorem copy_holds {held : List UInt8} {fragment : RecoveryLogData} {source copied : Nat}
    (h : source + copied ≤ 6) :
    copy_from_slice (pad 16 0 held) held.length copied fragment.data source =
      pad 16 0 (held ++ piece fragment source copied) := by
  rw [← pad_append (n := 16) held (piece fragment source copied)
    (fun i => fragment.data.getD (source + (i.val - held.length)) 0) ?_]
  · rw [piece_length h]; rfl
  · intro i hlow hhigh
    rw [piece_length h] at hhigh
    have hcopied : i.val - held.length < copied := by omega
    have hin : source + (i.val - held.length) < 6 := by omega
    simp [piece, Vector.getD, List.getD_eq_getElem?_getD, hcopied, hin]

/-- The fields that copying and taking a chunk leave alone. -/
structure Same (a a' : RecoveryAssembler) : Prop where
  transfer_id : a'.transfer_id = a.transfer_id
  source : a'.source = a.source
  total_size : a'.total_size = a.total_size
  expected_sequence : a'.expected_sequence = a.expected_sequence

theorem Same.trans {a b c : RecoveryAssembler} (h : Same a b) (h' : Same b c) : Same a c where
  transfer_id := h'.transfer_id.trans h.transfer_id
  source := h'.source.trans h.source
  total_size := h'.total_size.trans h.total_size
  expected_sequence := h'.expected_sequence.trans h.expected_sequence

/-- `a'` is `a` with `held` in its buffer. -/
structure Filled (a a' : RecoveryAssembler) (held : List UInt8) : Prop where
  same : Same a a'
  holds : Holds a' held
  offset : a'.offset = a.offset
  active : a'.active = a.active

/-- `a'` is `a` after it gave the bytes `given` away, with `held` left in its buffer. -/
structure Gave (a a' : RecoveryAssembler) (given held : List UInt8) (end_of_file : Bool) :
    Prop where
  same : Same a a'
  holds : Holds a' held
  offset : a'.offset.toNat = a.offset.toNat + given.length
  active : a'.active = (a.active && !end_of_file)

/-- The chunk of `a` with the bytes `given`. -/
structure ChunkOf (a : RecoveryAssembler) (given : List UInt8) (end_of_file : Bool)
    (chunk : RecoveryChunk) : Prop where
  transfer_id : chunk.transfer_id = a.transfer_id
  source : chunk.source = a.source
  offset : chunk.offset = a.offset
  data_length : chunk.data_length.val = given.length
  data : chunk.data = pad 16 0 given
  end_of_file : chunk.end_of_file = end_of_file

theorem Holds.copy {a : RecoveryAssembler} {held : List UInt8} (h : Holds a held)
    (fragment : RecoveryLogData) (source copied : Nat) (hc : a.data_length.val + copied ≤ 16)
    (hs : source + copied ≤ 6) :
    Filled a (a.copy fragment source copied hc) (held ++ piece fragment source copied) := by
  unfold RecoveryAssembler.copy
  refine ⟨⟨rfl, rfl, rfl, rfl⟩, ⟨?_, ?_⟩, rfl, rfl⟩
  · dsimp only
    rw [h.data, h.length, copy_holds hs]
  · dsimp only
    rw [List.length_append, piece_length hs, h.length]

theorem Holds.take_chunk {a : RecoveryAssembler} {held : List UInt8} (h : Holds a held)
    (hfit : a.offset.toNat + held.length < 2 ^ 32) (end_of_file : Bool) :
    ChunkOf a held end_of_file (a.take_chunk end_of_file).2 ∧
      Gave a (a.take_chunk end_of_file).1 held [] end_of_file := by
  unfold RecoveryAssembler.take_chunk
  constructor
  · constructor
    case data_length => exact h.length
    case data => exact h.data
    all_goals rfl
  · constructor
    case same => exact ⟨rfl, rfl, rfl, rfl⟩
    case holds => exact ⟨by simp, rfl⟩
    case offset => exact h.position hfit
    case active => cases end_of_file <;> simp

theorem Filled.refl {a : RecoveryAssembler} {held : List UInt8} (h : Holds a held) :
    Filled a a held :=
  ⟨⟨rfl, rfl, rfl, rfl⟩, h, rfl, rfl⟩

/-- Filling the buffer first does not change whose chunk it is. -/
theorem Filled.chunkOf {a a' : RecoveryAssembler} {held given : List UInt8} {end_of_file : Bool}
    {chunk : RecoveryChunk} (h : Filled a a' held) (hc : ChunkOf a' given end_of_file chunk) :
    ChunkOf a given end_of_file chunk where
  transfer_id := hc.transfer_id.trans h.same.transfer_id
  source := hc.source.trans h.same.source
  offset := hc.offset.trans h.offset
  data_length := hc.data_length
  data := hc.data
  end_of_file := hc.end_of_file

theorem Filled.gave {a a' a'' : RecoveryAssembler} {held given rest : List UInt8}
    {end_of_file : Bool} (h : Filled a a' held) (hg : Gave a' a'' given rest end_of_file) :
    Gave a a'' given rest end_of_file where
  same := h.same.trans hg.same
  holds := hg.holds
  offset := by rw [hg.offset, h.offset]
  active := by rw [hg.active, h.active]

/-- Filling the buffer afterwards changes only what is held. -/
theorem Gave.filled {a a' a'' : RecoveryAssembler} {given rest held : List UInt8}
    {end_of_file : Bool} (hg : Gave a a' given rest end_of_file) (h : Filled a' a'' held) :
    Gave a a'' given held end_of_file where
  same := hg.same.trans h.same
  holds := h.holds
  offset := by rw [h.offset, hg.offset]
  active := by rw [h.active, hg.active]

/-! ## The loop -/

section Turn

variable {c : Copy} {held : List UInt8} (fragment : RecoveryLogData) {n : Nat}

theorem copy_turn_spec (h : Holds c.self held) (hs : c.source ≤ n) (hn : n ≤ 6)
    (hfit : c.self.offset.toNat + held.length + (n - c.source) < 2 ^ 32) :
    let copied := min (16 - held.length) (n - c.source)
    let next := held ++ piece fragment c.source copied
    let c' := copy_turn fragment n c
    c'.source = c.source + copied ∧
      if next.length = 16 then
        let end_of_file := ended c.self.total_size (c.self.offset.toNat + 16) &&
          decide (c.source + copied = n)
        ∃ chunk, c'.emitted = some chunk ∧ ChunkOf c.self next end_of_file chunk ∧
          Gave c.self c'.self next [] end_of_file
      else c'.emitted = c.emitted ∧ Filled c.self c'.self next := by
  intro copied next c'
  have hle := h.le
  have hroom : c.self.data_length.val + copied ≤ 16 := by rw [h.length]; omega
  have hcopied : min (16 - c.self.data_length.val) (n - c.source) = copied := by rw [h.length]
  have hfilled := h.copy fragment c.source copied hroom (by omega)
  have hlen : next.length = held.length + copied := by
    rw [List.length_append, piece_length (by omega)]
  have hfull : (c.self.copy fragment c.source copied hroom).data_length = 16 ↔ next.length = 16 := by
    rw [Fin.ext_iff, hfilled.holds.length]; rfl
  simp only [c', copy_turn, hcopied, hfull]
  split <;> rename_i h16
  · refine ⟨rfl, _, rfl, ?_⟩
    have hfit' : c.self.offset.toNat + 16 < 2 ^ 32 := by omega
    have hend := hfilled.holds.reached_end (by rw [hfilled.offset, h16]; exact hfit')
    rw [hfilled.offset, hfilled.same.total_size, h16] at hend
    rw [hend]
    obtain ⟨hchunk, hgave⟩ := hfilled.holds.take_chunk
      (by rw [hfilled.offset, h16]; exact hfit')
      (ended c.self.total_size (c.self.offset.toNat + 16) && decide (c.source + copied = n))
    exact ⟨hfilled.chunkOf hchunk, hfilled.gave hgave⟩
  · exact ⟨rfl, rfl, hfilled⟩

end Turn

theorem copy_loop_done {fragment : RecoveryLogData} {n fuel : Nat} {c : Copy} (h : n ≤ c.source) :
    copy_loop fragment n fuel c = c := by
  cases fuel with
  | zero => rfl
  | succ fuel => rw [copy_loop, if_neg (by omega)]

theorem copy_loop_turn {fragment : RecoveryLogData} {n fuel : Nat} {c : Copy} (h : c.source < n) :
    copy_loop fragment n (fuel + 1) c = copy_loop fragment n fuel (copy_turn fragment n c) := by
  rw [copy_loop, if_pos h]

/-- The loop from its start: the first `n` bytes go into the buffer, and a full buffer is given
away. The loop has enough turns, because the last one leaves `source = n`. -/
theorem copy_loop_spec {a : RecoveryAssembler} {held : List UInt8} (fragment : RecoveryLogData)
    {n : Nat} (h : Holds a held) (hroom : held.length < 16) (hn : n ≤ 6)
    (hfit : a.offset.toNat + held.length + n < 2 ^ 32) :
    let all := held ++ piece fragment 0 n
    let c := copy_loop fragment n n { self := a, source := 0, emitted := none }
    c.source = n ∧
      if 16 ≤ all.length then
        let end_of_file := ended a.total_size (a.offset.toNat + 16) && decide (all.length = 16)
        ∃ chunk, c.emitted = some chunk ∧ ChunkOf a (all.take 16) end_of_file chunk ∧
          Gave a c.self (all.take 16) (all.drop 16) end_of_file
      else c.emitted = none ∧ Filled a c.self all := by
  intro all c
  have hall : all.length = held.length + n := by
    rw [List.length_append, piece_length (by omega)]
  cases hn0 : n with
  | zero =>
    subst hn0
    have hall0 : all = held := by simp [all, piece]
    rw [hall0]
    exact ⟨rfl, by rw [if_neg (by omega)]; exact ⟨rfl, .refl h⟩⟩
  | succ m =>
    obtain ⟨hsource, hturn⟩ := copy_turn_spec (n := n) (c := { self := a, source := 0, emitted := none })
      fragment h (by simp) hn hfit
    have hc : c = copy_loop fragment n m
        (copy_turn fragment n { self := a, source := 0, emitted := none }) := by
      simp only [c, hn0]
      rw [copy_loop_turn (by simp)]
    rw [← hn0, hc]
    generalize copy_turn fragment n { self := a, source := 0, emitted := none } = c₁ at *
    simp only [Nat.sub_zero, Nat.zero_add] at hsource hturn
    by_cases hsmall : held.length + n ≤ 16
    · -- The fragment fits, so this turn is the last.
      rw [show min (16 - held.length) n = n by omega] at hsource hturn
      rw [show held ++ piece fragment 0 n = all from rfl] at hturn
      rw [copy_loop_done (by omega)]
      refine ⟨hsource, ?_⟩
      by_cases h16 : held.length + n = 16
      · rw [if_pos (by omega)] at hturn ⊢
        obtain ⟨chunk, hemitted, hchunk, hgave⟩ := hturn
        rw [List.take_of_length_le (by omega), List.drop_eq_nil_of_le (by omega)]
        simp only [decide_true] at hchunk hgave
        refine ⟨chunk, hemitted, ?_, ?_⟩
        · simpa [hall, h16] using hchunk
        · simpa [hall, h16] using hgave
      · rw [if_neg (by omega)] at hturn ⊢
        exact hturn
    · -- This turn fills the buffer, and one more copies what is left.
      have hsplit := piece_split fragment (n := n) (k := 16 - held.length) (by omega)
      have hk : (piece fragment 0 (16 - held.length)).length = 16 - held.length :=
        piece_length (by omega)
      rw [show min (16 - held.length) n = 16 - held.length by omega] at hsource hturn
      rw [if_pos (by rw [List.length_append]; omega)] at hturn
      obtain ⟨chunk, hemitted, hchunk, hgave⟩ := hturn
      obtain ⟨k, hm⟩ : ∃ k, m = k + 1 := ⟨m - 1, by omega⟩
      obtain ⟨hsource₂, hturn₂⟩ := copy_turn_spec (n := n) (c := c₁) fragment hgave.holds
        (by omega) hn (by rw [hgave.offset, List.length_append, List.length_nil]; omega)
      rw [List.length_nil, hsource, show min (16 - 0) (n - (16 - held.length)) =
        n - (16 - held.length) by omega] at hsource₂ hturn₂
      have hrest : (piece fragment (16 - held.length) (n - (16 - held.length))).length =
          n - (16 - held.length) := piece_length (by omega)
      rw [List.nil_append, if_neg (by omega)] at hturn₂
      rw [hm, copy_loop_turn (by omega), copy_loop_done (by omega)]
      refine ⟨by omega, ?_⟩
      have hsplit' : all = (held ++ piece fragment 0 (16 - held.length)) ++
          piece fragment (16 - held.length) (n - (16 - held.length)) := by
        rw [List.append_assoc, ← hsplit]
      have h16 : (held ++ piece fragment 0 (16 - held.length)).length = 16 := by
        rw [List.length_append]; omega
      have htake : all.take 16 = held ++ piece fragment 0 (16 - held.length) := by
        rw [hsplit', List.take_append_of_le_length (by omega), List.take_of_length_le (by omega)]
      have hdrop : all.drop 16 = piece fragment (16 - held.length) (n - (16 - held.length)) := by
        rw [hsplit', List.drop_append_of_le_length (by omega), List.drop_eq_nil_of_le (by omega),
          List.nil_append]
      rw [if_pos (by omega), htake, hdrop]
      have heof : decide (16 - held.length = n) = decide (all.length = 16) := by
        rw [decide_eq_decide]; omega
      rw [heof] at hchunk hgave
      exact ⟨chunk, hturn₂.1.trans hemitted, hchunk, hgave.filled hturn₂.2⟩

/-! ## `push` -/

/-- What a push does to the bytes: those of the buffer and of the fragment are the chunk that is
given away, if there is one, followed by what the buffer holds then. -/
inductive Packs (a a' : RecoveryAssembler) (all : List UInt8) : Option RecoveryChunk → Prop where
  | keeps (hlen : all.length < 16) (hend : ended a.total_size (a.offset.toNat + all.length) = false)
      (h : Filled a a' all) : Packs a a' all none
  | ends {chunk : RecoveryChunk} (hlen : all.length < 16)
      (hend : ended a.total_size (a.offset.toNat + all.length) = true)
      (h : ChunkOf a all true chunk) (h' : Gave a a' all [] true) : Packs a a' all (some chunk)
  | fills {chunk : RecoveryChunk} {end_of_file : Bool} (hlen : 16 ≤ all.length)
      (hend : end_of_file = (ended a.total_size (a.offset.toNat + 16) && decide (all.length = 16)))
      (h : ChunkOf a (all.take 16) end_of_file chunk)
      (h' : Gave a a' (all.take 16) (all.drop 16) end_of_file) : Packs a a' all (some chunk)

/-- The bytes of the buffer. -/
def held (a : RecoveryAssembler) : List UInt8 := a.data.toList.take a.data_length

/-- The bytes of what was given. -/
def given (emitted : Option RecoveryChunk) : List UInt8 :=
  emitted.toList.flatMap fun chunk => chunk.data.toList.take chunk.data_length

theorem Holds.held {a : RecoveryAssembler} {bytes : List UInt8} (h : Holds a bytes) :
    held a = bytes := by
  rw [Assembler.held, h.data, h.length, toList_pad_take h.le]

theorem ChunkOf.given {a : RecoveryAssembler} {bytes : List UInt8} {end_of_file : Bool}
    {chunk : RecoveryChunk} (h : ChunkOf a bytes end_of_file chunk) :
    given (some chunk) = bytes := by
  have := chunk.data_length.isLt
  have hlen := h.data_length
  simp only [Assembler.given, Option.toList_some, List.flatMap_singleton, h.data, hlen]
  exact toList_pad_take (by omega)

/-- No byte is lost or made up. -/
theorem Packs.bytes {a a' : RecoveryAssembler} {all : List UInt8} {emitted : Option RecoveryChunk}
    (h : Packs a a' all emitted) : given emitted ++ held a' = all := by
  cases h with
  | keeps _ _ h => rw [h.holds.held]; rfl
  | ends _ _ h h' => rw [h.given, h'.holds.held, List.append_nil]
  | fills _ _ h h' => rw [h.given, h'.holds.held, List.take_append_drop]

/-- An assembler that is no longer active has given all it had, in a chunk that says so. -/
theorem Packs.closed {a a' : RecoveryAssembler} {all : List UInt8} {emitted : Option RecoveryChunk}
    (h : Packs a a' all emitted) (hbefore : a.active = true) (hafter : a'.active = false) :
    held a' = [] ∧ ∃ chunk, emitted = some chunk ∧ chunk.end_of_file = true := by
  cases h with
  | keeps _ _ h =>
    rw [h.active, hbefore] at hafter
    cases hafter
  | ends _ _ h h' => exact ⟨h'.holds.held, _, rfl, h.end_of_file⟩
  | fills _ hend h h' =>
    rw [h'.active] at hafter
    have hmarked := (Bool.and_eq_true _ _).mp (hend.symm.trans (by simpa [hbefore] using hafter))
    refine ⟨?_, _, rfl, h.end_of_file.trans (by simpa [hbefore] using hafter)⟩
    rw [h'.holds.held, List.drop_eq_nil_iff]
    exact (of_decide_eq_true hmarked.2).le

/-- How many bytes there are to pack. -/
theorem held_taken_length (held : List UInt8) (fragment : RecoveryLogData) (limit : Option UInt32)
    (p : Nat) : (held ++ piece fragment 0 (taken limit p)).length = held.length + taken limit p := by
  have htaken := taken_le limit p
  rw [List.length_append, piece_length (by omega)]

/-- The fragment is the one the assembler waits for. -/
def InSequence (a : RecoveryAssembler) (fragment : RecoveryLogData) : Prop :=
  ∀ expected, a.expected_sequence = some expected → fragment.sequence = expected

theorem push_in_sequence {a : RecoveryAssembler} {held : List UInt8} (fragment : RecoveryLogData)
    (h : Holds a held) (hroom : held.length < 16) (hactive : a.active = true)
    (hid : fragment.transfer_id = a.transfer_id) (hseq : InSequence a fragment)
    (hfit : a.offset.toNat + held.length + 6 < 2 ^ 32) :
    ∃ a' emitted, a.push fragment = (a', .ok emitted) ∧
      Packs { a with expected_sequence := some (fragment.sequence + 1) } a'
        (held ++ piece fragment 0 (taken a.total_size (a.offset.toNat + held.length))) emitted := by
  have hsame : a.expected_sequence.any (fragment.sequence ≠ ·) = false := by
    cases hexpected : a.expected_sequence with
    | none => rfl
    | some expected => simpa using hseq expected hexpected
  have hn := taken_le a.total_size (a.offset.toNat + held.length)
  have hlength := h.fragment_length (by omega)
  have hloop := copy_loop_spec (a := { a with expected_sequence := some (fragment.sequence + 1) })
    fragment ⟨h.data, h.length⟩ hroom hn (by dsimp only; omega)
  unfold push
  rw [if_neg (by simp [hactive]), if_neg (by simp [hid]), if_neg (by rw [hsame]; simp)]
  dsimp only at hloop ⊢
  rw [show RecoveryAssembler.fragment_length
    { a with expected_sequence := some (fragment.sequence + 1) } = a.fragment_length from rfl,
    hlength]
  generalize hall : held ++ piece fragment 0 (taken a.total_size (a.offset.toNat + held.length)) =
    all at hloop ⊢
  have halllen : all.length = held.length + taken a.total_size (a.offset.toNat + held.length) := by
    rw [← hall, List.length_append, piece_length (by omega)]
  generalize copy_loop fragment _ _ _ = c at hloop ⊢
  obtain ⟨-, hloop⟩ := hloop
  by_cases h16 : 16 ≤ all.length
  · rw [if_pos h16] at hloop
    obtain ⟨chunk, hemitted, hchunk, hgave⟩ := hloop
    rw [if_neg (by simp [hemitted])]
    exact ⟨_, _, rfl, hemitted ▸ .fills h16 rfl hchunk hgave⟩
  · rw [if_neg h16] at hloop
    obtain ⟨hemitted, hfilled⟩ := hloop
    have hfit' : c.self.offset.toNat + all.length < 2 ^ 32 := by
      rw [hfilled.offset]; dsimp only; omega
    have hend := hfilled.holds.reached_end hfit'
    rw [hfilled.same.total_size, hfilled.offset] at hend
    by_cases hreached : c.self.reached_end = true
    · rw [if_pos ⟨hemitted, hreached⟩]
      obtain ⟨hchunk, hgave⟩ := hfilled.holds.take_chunk hfit' true
      exact ⟨_, _, rfl,
        .ends (by omega) (hend ▸ hreached) (hfilled.chunkOf hchunk) (hfilled.gave hgave)⟩
    · rw [if_neg (fun hc => hreached hc.2), hemitted]
      exact ⟨_, _, rfl, .keeps (by omega) (hend ▸ by simpa using hreached) hfilled⟩

theorem push_wrong_transfer {a : RecoveryAssembler} {fragment : RecoveryLogData}
    (hactive : a.active = true) (hid : fragment.transfer_id ≠ a.transfer_id) :
    a.push fragment = (a, .error .WrongTransfer) := by
  unfold push
  rw [if_neg (by simp [hactive]), if_pos hid]

theorem push_out_of_sequence {a : RecoveryAssembler} {fragment : RecoveryLogData}
    (hactive : a.active = true) (hid : fragment.transfer_id = a.transfer_id)
    (hseq : ¬ InSequence a fragment) :
    a.push fragment = ({ a with
      offset := a.position
      data := Vector.replicate 16 0
      data_length := 0
      active := false }, .error .SequenceGap) := by
  have hgap : a.expected_sequence.any (fragment.sequence ≠ ·) = true := by
    simp only [InSequence, not_forall] at hseq
    obtain ⟨expected, hexpected, hne⟩ := hseq
    rw [hexpected]
    simpa using hne
  unfold push
  rw [if_neg (by simp [hactive]), if_neg (by simp [hid]), if_pos hgap]

theorem push_inactive {a : RecoveryAssembler} (hactive : a.active = false)
    (fragment : RecoveryLogData) : a.push fragment = (a, .error .NotStarted) := by
  unfold push
  rw [if_pos (by simp [hactive])]

/-! ## The known end -/

theorem copy_turn_total_size (fragment : RecoveryLogData) (n : Nat) (c : Copy) :
    (copy_turn fragment n c).self.total_size = c.self.total_size := by
  unfold copy_turn
  dsimp only
  split <;> rfl

theorem copy_loop_total_size (fragment : RecoveryLogData) (n fuel : Nat) (c : Copy) :
    (copy_loop fragment n fuel c).self.total_size = c.self.total_size := by
  induction fuel generalizing c with
  | zero => rfl
  | succ fuel ih =>
    rw [copy_loop]
    split
    · rw [ih, copy_turn_total_size]
    · rfl

/-- A push does not move the known end. -/
theorem push_total_size (a : RecoveryAssembler) (fragment : RecoveryLogData) :
    (a.push fragment).1.total_size = a.total_size := by
  unfold push
  dsimp only
  split
  · rfl
  split
  · rfl
  split
  · rfl
  split <;> exact copy_loop_total_size fragment _ _ _

/-! ## Chunks in a row -/

/-- The chunks follow each other without a hole from `start` to `stop`. -/
def Contiguous (start : Nat) : List RecoveryChunk → Nat → Prop
  | [], stop => stop = start
  | chunk :: chunks, stop =>
    chunk.offset.toNat = start ∧ Contiguous (start + chunk.data_length.val) chunks stop

section Chunks

variable {chunks : List RecoveryChunk} {chunk : RecoveryChunk} {start stop : Nat}

theorem Contiguous.snoc (h : Contiguous start chunks stop) (hc : chunk.offset.toNat = stop) :
    Contiguous start (chunks ++ [chunk]) (stop + chunk.data_length.val) := by
  induction chunks generalizing start with
  | nil => exact ⟨hc.trans h, congrArg (· + _) h⟩
  | cons c cs ih => exact ⟨h.1, ih h.2⟩

/-- The bytes of the chunks. -/
def byteCount (chunks : List RecoveryChunk) : Nat := (chunks.map (·.data_length.val)).sum

theorem Contiguous.stop_eq (h : Contiguous start chunks stop) :
    stop = start + byteCount chunks := by
  induction chunks generalizing start with
  | nil => exact h
  | cons c cs ih =>
    have := ih h.2
    simp only [byteCount, List.map_cons, List.sum_cons] at this ⊢
    omega

end Chunks

end Comboard.Assembler
