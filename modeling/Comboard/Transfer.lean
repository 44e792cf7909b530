import Comboard.Assembler
import Mathlib.Data.List.Chain
import Mathlib.Data.List.Induction

/-!
# A transfer over a link that loses fragments

The sender cuts the source into fragments of 6 bytes and numbers them modulo 256. What arrives
keeps its order. The chunks are always a piece of the source without a hole.
-/

namespace Comboard.Transfer

open Lib RecoveryAssembler Assembler

structure Sender where
  transfer_id : UInt8
  source : RecoverySource
  offset : UInt32
  length : UInt32
  /-- The sequence number of the first fragment. -/
  first : UInt8
  /-- The source, by offset. -/
  bytes : Nat → UInt8

inductive Call where
  | push (k : Nat)
  | set_total_size (total_size : UInt32)
  | finish
  | stop
  | abort
  deriving DecidableEq

variable (x : Sender)

def Sender.slice (x : Sender) (offset n : Nat) : List UInt8 := (List.range' offset n).map x.bytes

def Sender.fragment (x : Sender) (k : Nat) : RecoveryLogData where
  transfer_id := x.transfer_id
  sequence := x.first + .ofNat k
  data := .ofFn fun i => x.bytes (x.offset.toNat + 6 * k + i)

/-- One call, and the chunk it gives. -/
def call (a : RecoveryAssembler) : Call → RecoveryAssembler × Option RecoveryChunk
  | .push k =>
    match a.push (x.fragment k) with
    | (a, .ok emitted) => (a, emitted)
    | (a, .error _) => (a, none)
  | .set_total_size total_size => (a.set_total_size x.transfer_id total_size, none)
  | .finish => a.finish x.transfer_id
  | .stop => a.stop
  | .abort => (a.abort.1, none)

/-- The assembler and the chunks after the calls, from `start` on. -/
def run (calls : List Call) : RecoveryAssembler × List RecoveryChunk :=
  calls.foldl (fun (a, chunks) c => ((call x a c).1, chunks ++ (call x a c).2.toList))
    (RecoveryAssembler.start x.transfer_id x.source x.offset x.length, [])

/-- The fragments that arrive. -/
def delivered (calls : List Call) : List Nat :=
  calls.filterMap fun
    | .push k => some k
    | _ => none

/-- The fragment after the last one that arrived. -/
def next (calls : List Call) : Nat := ((delivered calls).getLast?.map (· + 1)).getD 0

/-- Where the transfer may end: where `start` asked it to, and every total size since. -/
def limits (calls : List Call) : List Nat :=
  (if x.length ≠ 0 then [x.offset.toNat + x.length.toNat] else []) ++ calls.filterMap fun
    | .set_total_size total_size => if total_size ≠ 0 then some total_size.toNat else none
    | _ => none

/-- The known end. -/
def knownEnd (calls : List Call) : Option Nat := (limits x calls).min?

/-- What the link may do: the first fragment arrives, order is kept, and of 256 fragments in a row
at least one arrives. -/
structure Lossy (calls : List Call) : Prop where
  first : ∀ k, (delivered calls).head? = some k → k = 0
  gaps : (delivered calls).IsChain fun j k => j < k ∧ k ≤ j + 256
  fits : ∀ k ∈ delivered calls, 6 * (k + 1) < 2 ^ 32 - x.offset.toNat

/-! ## The source -/

section Slice

variable {x}

@[simp]
theorem slice_length (o n : Nat) : (x.slice o n).length = n := by simp [Sender.slice]

theorem slice_append (o m n : Nat) : x.slice o m ++ x.slice (o + m) n = x.slice o (m + n) := by
  rw [Sender.slice, Sender.slice, ← List.map_append, List.range'_append_1]; rfl

theorem slice_take (o : Nat) {m n : Nat} (h : m ≤ n) : (x.slice o n).take m = x.slice o m := by
  rw [Sender.slice, ← List.map_take, List.take_range'_of_length_ge h]; rfl

theorem slice_drop (o m n : Nat) : (x.slice o n).drop m = x.slice (o + m) (n - m) := by
  rw [Sender.slice, ← List.map_drop, List.drop_range', Nat.mul_one]; rfl

theorem fragment_bytes (k : Nat) :
    (x.fragment k).data.toList = x.slice (x.offset.toNat + 6 * k) 6 := by
  apply List.ext_getElem
  · simp
  · intro i h₁ h₂
    simp [Sender.fragment, Sender.slice]

theorem piece_slice (k : Nat) {m : Nat} (h : m ≤ 6) :
    piece (x.fragment k) 0 m = x.slice (x.offset.toNat + 6 * k) m := by
  rw [piece, fragment_bytes, List.drop_zero, slice_take _ h]

end Slice

/-! ## Order of delivery -/

section Order

variable {x} {calls : List Call}

theorem run_snoc (calls : List Call) (c : Call) :
    run x (calls ++ [c]) =
      ((call x (run x calls).1 c).1, (run x calls).2 ++ (call x (run x calls).1 c).2.toList) := by
  simp [run]

theorem delivered_append (calls later : List Call) :
    delivered (calls ++ later) = delivered calls ++ delivered later := by simp [delivered]

theorem next_push (calls : List Call) (k : Nat) : next (calls ++ [.push k]) = k + 1 := by
  simp [next, delivered]

theorem next_other (calls : List Call) {c : Call} (h : ∀ k, c ≠ .push k) :
    next (calls ++ [c]) = next calls := by
  cases c with
  | push k => exact absurd rfl (h k)
  | _ => simp [next, delivered]

theorem Lossy.init {later : List Call} (h : Lossy x (calls ++ later)) : Lossy x calls := by
  have hdelivered := delivered_append calls later
  refine ⟨fun k hk => h.first k ?_, ?_, fun k hk => h.fits k ?_⟩
  · rw [hdelivered, List.head?_append, hk]; rfl
  · have := h.gaps
    rw [hdelivered, List.isChain_append] at this
    exact this.1
  · rw [hdelivered]; exact List.mem_append_left _ hk

/-- The next fragment arrives, or fewer than 256 are missing before the one that does. -/
theorem Lossy.push {k : Nat} (h : Lossy x (calls ++ [.push k])) :
    k = next calls ∨ 0 < next calls ∧ next calls < k ∧ k < next calls + 256 := by
  have hdelivered : delivered (calls ++ [.push k]) = delivered calls ++ [k] := delivered_append _ _
  cases hlast : (delivered calls).getLast? with
  | none =>
    rw [List.getLast?_eq_none_iff] at hlast
    left
    rw [h.first k (by rw [hdelivered, hlast]; rfl)]
    simp [next, hlast]
  | some j =>
    have hgaps := h.gaps
    rw [hdelivered, List.isChain_append] at hgaps
    have hjk := hgaps.2.2 j hlast k rfl
    simp only [next, hlast, Option.map_some, Option.getD_some]
    omega

theorem Lossy.next_fits (h : Lossy x calls) : x.offset.toNat + 6 * next calls < 2 ^ 32 := by
  have := x.offset.toNat_lt
  cases hlast : (delivered calls).getLast? with
  | none => simp only [next, hlast]; exact this
  | some j =>
    have := h.fits j (List.mem_of_getLast? hlast)
    simp only [next, hlast, Option.map_some, Option.getD_some]
    omega

/-- The numbers of two fragments differ if fewer than 256 lie between them. -/
theorem sequence_ne {n k : Nat} (h : n < k) (h' : k < n + 256) :
    x.first + UInt8.ofNat k ≠ x.first + UInt8.ofNat n := by
  rw [ne_eq, UInt8.add_right_inj, ← UInt8.toNat_inj, UInt8.toNat_ofNat', UInt8.toNat_ofNat']
  omega

end Order

/-! ## What is delivered -/

/-- The chunk is its piece of the source, and zero behind. -/
def Carries (chunk : RecoveryChunk) : Prop :=
  ∀ i : Fin 16, chunk.data.get i =
    if i.val < chunk.data_length.val then x.bytes (chunk.offset.toNat + i) else 0

/-- The chunks are a piece of the source from its start, up to `stop`. -/
structure Faithful (chunks : List RecoveryChunk) (stop : Nat) : Prop where
  identity : ∀ chunk ∈ chunks, chunk.transfer_id = x.transfer_id ∧ chunk.source = x.source
  carries : ∀ chunk ∈ chunks, Carries x chunk
  contiguous : Contiguous x.offset.toNat chunks stop
  full : ∀ chunk ∈ chunks, chunk.end_of_file = false → chunk.data_length = 16
  last : ∀ before chunk after, chunks = before ++ chunk :: after → chunk.end_of_file = true →
    after = []

section Chunks

variable {x} {chunks : List RecoveryChunk} {chunk : RecoveryChunk} {p : Nat}

theorem faithful_nil : Faithful x [] x.offset.toNat := by
  refine ⟨by simp, by simp, rfl, by simp, ?_⟩
  intro before chunk after h
  simp at h

theorem Faithful.snoc (h : Faithful x chunks p) (hopen : ∀ c ∈ chunks, c.end_of_file = false)
    (hid : chunk.transfer_id = x.transfer_id) (hsource : chunk.source = x.source)
    (hcarries : Carries x chunk) (hoffset : chunk.offset.toNat = p)
    (hfull : chunk.end_of_file = false → chunk.data_length = 16) :
    Faithful x (chunks ++ [chunk]) (p + chunk.data_length.val) := by
  refine ⟨?_, ?_, h.contiguous.snoc hoffset, ?_, ?_⟩
  · simpa [or_imp, forall_and, hid, hsource] using h.identity
  · simpa [or_imp, forall_and, hcarries] using h.carries
  · simp only [List.mem_append, List.mem_singleton, or_imp, forall_and, forall_eq]
    exact ⟨h.full, hfull⟩
  · -- Only the new chunk can be the end, and nothing is behind it.
    intro before c after heq hend
    rcases List.eq_nil_or_concat after with rfl | ⟨init, c', rfl⟩
    · rfl
    · rw [List.concat_eq_append, ← List.cons_append, ← List.append_assoc] at heq
      have := (List.append_inj' heq rfl).1
      have := hopen c (by rw [this]; simp)
      rw [hend] at this
      contradiction

/-- A chunk of an assembler that holds a piece of the source. -/
theorem carries_of_chunkOf {a : RecoveryAssembler} {m : Nat} {end_of_file : Bool}
    (h : ChunkOf a (x.slice a.offset.toNat m) end_of_file chunk) : Carries x chunk := by
  intro i
  have hlen := h.data_length
  rw [slice_length] at hlen
  change chunk.data[i.val] = _
  rw [getElem_congr_coll h.data, getElem_pad, hlen, h.offset]
  split <;> rename_i hi
  · rw [List.getD_eq_getElem _ _ (by simpa using hi)]
    simp [Sender.slice]
  · rw [List.getD_eq_default _ _ (by simpa using hi)]

end Chunks

/-! ## The invariant -/

/-- The active assembler after the fragments before `k`: the chunks stop where its buffer starts,
and the buffer holds what is left of the fragments, up to the known end. -/
structure Packing (a : RecoveryAssembler) (chunks : List RecoveryChunk) (k held : Nat) : Prop where
  transfer_id : a.transfer_id = x.transfer_id
  source : a.source = x.source
  holds : Holds a (x.slice a.offset.toNat held)
  room : held < 16
  expected : a.expected_sequence = if k = 0 then none else some (x.first + .ofNat k)
  faithful : Faithful x chunks a.offset.toNat
  unfinished : ∀ chunk ∈ chunks, chunk.end_of_file = false
  below : a.offset.toNat + held ≤ x.offset.toNat + 6 * k
  reached : a.offset.toNat + held = x.offset.toNat + 6 * k ∨
    ended a.total_size (a.offset.toNat + held) = true

/-- The chunks stop below what the fragments before `k` carry, and an active assembler packs on. -/
structure Inv (a : RecoveryAssembler) (chunks : List RecoveryChunk) (k : Nat) : Prop where
  faithful : ∃ stop, Faithful x chunks stop ∧ stop ≤ x.offset.toNat + 6 * k
  packing : a.active = true → ∃ held, Packing x a chunks k held

section Known

/-- A fragment is taken whole, or up to the known end. -/
theorem taken_reaches (limit : Option UInt32) (p : Nat) :
    taken limit p = 6 ∨ ended limit (p + taken limit p) = true := by
  cases limit with
  | none => exact .inl rfl
  | some total_size =>
    by_cases h : 6 ≤ total_size.toNat - p
    · left
      simp only [taken]
      omega
    · right
      simp only [taken]
      exact ended_iff.mpr ⟨total_size, rfl, by omega⟩

end Known

section Step

variable {x} {a a' : RecoveryAssembler} {chunks : List RecoveryChunk} {k held : Nat}

theorem Packing.inv (h : Packing x a chunks k held) : Inv x a chunks k where
  faithful := ⟨_, h.faithful, by have := h.below; omega⟩
  packing _ := ⟨held, h⟩

/-- What the chunks and the buffer hold after the next fragment. -/
theorem Packing.all (h : Packing x a chunks k held) :
    x.slice a.offset.toNat held ++
        piece (x.fragment k) 0 (taken a.total_size (a.offset.toNat + held)) =
      x.slice a.offset.toNat (held + taken a.total_size (a.offset.toNat + held)) := by
  rw [piece_slice k (taken_le _ _), ← slice_append]
  rcases h.reached with heq | hend
  · rw [heq]
  · rw [taken_eq_zero.mpr hend]
    simp [Sender.slice]

/-- Taking what is held leaves a faithful list of chunks. -/
theorem Packing.chunk {chunk : RecoveryChunk} {given : Nat} {end_of_file : Bool}
    (h : Packing x a chunks k held) (hgiven : end_of_file = false → given = 16)
    (hc : ChunkOf a (x.slice a.offset.toNat given) end_of_file chunk) :
    Faithful x (chunks ++ [chunk]) (a.offset.toNat + given) := by
  have hlen : chunk.data_length.val = given := by rw [hc.data_length, slice_length]
  rw [← hlen]
  refine h.faithful.snoc h.unfinished (hc.transfer_id.trans h.transfer_id)
    (hc.source.trans h.source) (carries_of_chunkOf hc) (by rw [hc.offset]) ?_
  intro heof
  rw [Fin.ext_iff, hlen, hgiven (hc.end_of_file ▸ heof)]
  rfl

theorem Packing.step (h : Packing x a chunks k held) {emitted : Option RecoveryChunk}
    (hpacks : Packs { a with expected_sequence := some (x.first + .ofNat (k + 1)) } a'
      (x.slice a.offset.toNat (held + taken a.total_size (a.offset.toNat + held))) emitted) :
    Inv x a' (chunks ++ emitted.toList) (k + 1) := by
  have hroom := h.room
  have hbelow := h.below
  have hle := taken_le a.total_size (a.offset.toNat + held)
  have hreaches := taken_reaches a.total_size (a.offset.toNat + held)
  have hreached : a.offset.toNat + held = x.offset.toNat + 6 * k ∨
      taken a.total_size (a.offset.toNat + held) = 0 := h.reached.imp_right taken_eq_zero.mpr
  generalize taken a.total_size (a.offset.toNat + held) = n at *
  have hnew : (a.offset.toNat + held + n = x.offset.toNat + 6 * (k + 1)) ∨
      ended a.total_size (a.offset.toNat + held + n) = true := by
    rcases hreaches with h6 | hend
    · left; omega
    · exact .inr hend
  cases hpacks with
  | keeps hlen hend hfill =>
    rw [slice_length] at hlen
    simp only [Option.toList_none, List.append_nil]
    have hoffset : a'.offset = a.offset := hfill.offset
    have hlimit : a'.total_size = a.total_size := hfill.same.total_size
    refine Packing.inv ⟨hfill.same.transfer_id.trans h.transfer_id,
      hfill.same.source.trans h.source, ?_, hlen, ?_, ?_, h.unfinished, ?_, ?_⟩
    · rw [hoffset]; exact hfill.holds
    · rw [if_neg (by omega)]; exact hfill.same.expected_sequence
    · rw [hoffset]; exact h.faithful
    · rw [hoffset]; omega
    · rw [hoffset, hlimit, ← Nat.add_assoc]; exact hnew
  | ends hlen hend hchunk hgave =>
    refine ⟨⟨_, h.chunk (by simp) ⟨hchunk.transfer_id, hchunk.source, hchunk.offset,
      hchunk.data_length, hchunk.data, hchunk.end_of_file⟩, by omega⟩, ?_⟩
    intro hactive
    rw [hgave.active] at hactive
    simp at hactive
  | fills hlen heof hchunk hgave =>
    rename_i chunk end_of_file
    rw [slice_length] at hlen
    rw [slice_take _ hlen] at hchunk hgave
    rw [slice_drop] at hgave
    have hfaithful : Faithful x (chunks ++ [chunk]) (a.offset.toNat + 16) :=
      h.chunk (fun _ => rfl) ⟨hchunk.transfer_id, hchunk.source, hchunk.offset,
        hchunk.data_length, hchunk.data, hchunk.end_of_file⟩
    have hoffset : a'.offset.toNat = a.offset.toNat + 16 := by
      rw [hgave.offset, slice_length]
    refine ⟨⟨_, hfaithful, by omega⟩, ?_⟩
    intro hactive
    have hopen : end_of_file = false := by
      rw [hgave.active] at hactive
      simpa using (Bool.and_eq_true_iff.mp hactive).2
    have hlimit : a'.total_size = a.total_size := hgave.same.total_size
    refine ⟨held + n - 16, ⟨hgave.same.transfer_id.trans h.transfer_id,
      hgave.same.source.trans h.source, ?_, by omega, ?_, ?_, ?_, by omega, ?_⟩⟩
    · rw [hoffset]; exact hgave.holds
    · rw [if_neg (by omega)]; exact hgave.same.expected_sequence
    · rw [hoffset]; exact hfaithful
    · simpa [or_imp, forall_and, hchunk.end_of_file, hopen] using h.unfinished
    · rw [hoffset, hlimit,
        show a.offset.toNat + 16 + (held + n - 16) = a.offset.toNat + held + n by omega]
      exact hnew

end Step

/-! ## Runs -/

section Runs

variable {x} {a : RecoveryAssembler} {chunks : List RecoveryChunk} {k held : Nat}

theorem start_inv :
    Inv x (RecoveryAssembler.start x.transfer_id x.source x.offset x.length) [] 0 :=
  have hpacking :
      Packing x (RecoveryAssembler.start x.transfer_id x.source x.offset x.length) [] 0 0 :=
    { transfer_id := rfl
      source := rfl
      holds := ⟨by simp [RecoveryAssembler.start, Sender.slice], rfl⟩
      room := by omega
      expected := rfl
      faithful := faithful_nil
      unfinished := by simp
      below := by simp [RecoveryAssembler.start]
      reached := .inl rfl }
  hpacking.inv

/-- Fragments that do not reach the assembler give nothing. -/
theorem Inv.inactive {a' : RecoveryAssembler} {m : Nat} (h : Inv x a chunks k) (hk : k ≤ m)
    (hactive : a'.active = false) : Inv x a' chunks m := by
  obtain ⟨stop, hfaithful, hstop⟩ := h.faithful
  exact ⟨⟨stop, hfaithful, by omega⟩, by simp [hactive]⟩

/-- The known end may move below what the buffer holds, never above where it was reached. -/
theorem Inv.set_total_size (h : Inv x a chunks k) (total_size : UInt32) :
    Inv x (a.set_total_size x.transfer_id total_size) chunks k := by
  unfold RecoveryAssembler.set_total_size
  split <;> rename_i hset
  · obtain ⟨held, hpacking⟩ := h.packing hset.1
    refine Packing.inv { hpacking with
      holds := ⟨hpacking.holds.data, hpacking.holds.length⟩
      reached := hpacking.reached.imp_right fun hend => ?_ }
    obtain ⟨last, hlast, hle⟩ := ended_iff.mp hend
    refine ended_iff.mpr ⟨min last total_size, by simp [hlast], ?_⟩
    have : (min last total_size).toNat ≤ last.toNat :=
      UInt32.le_iff_toNat_le.mp (Std.min_le_left)
    dsimp only
    omega
  · exact h

theorem Inv.finish (h : Inv x a chunks k) (hfit : x.offset.toNat + 6 * k < 2 ^ 32)
    (transfer_id : UInt8) :
    Inv x (a.finish transfer_id).1 (chunks ++ (a.finish transfer_id).2.toList) k := by
  unfold RecoveryAssembler.finish
  split <;> rename_i hactive
  · simpa using h
  · obtain ⟨held, hpacking⟩ := h.packing (by simp_all)
    have hbelow := hpacking.below
    obtain ⟨hchunk, hgave⟩ := hpacking.holds.take_chunk (by rw [slice_length]; omega) true
    refine ⟨⟨_, hpacking.chunk (by simp) hchunk, hbelow⟩, ?_⟩
    intro hactive
    dsimp only at hactive
    rw [hgave.active] at hactive
    simp at hactive

theorem Packing.inSequence (h : Packing x a chunks k held) : InSequence a (x.fragment k) := by
  intro expected hexpected
  rw [h.expected] at hexpected
  split at hexpected
  · simp at hexpected
  · exact Option.some.inj hexpected

/-- The next fragment arrives at an active assembler. -/
theorem Packing.push (h : Packing x a chunks k held) (hactive : a.active = true)
    (hfit : x.offset.toNat + 6 * (k + 1) < 2 ^ 32) :
    ∃ a' emitted, a.push (x.fragment k) = (a', .ok emitted) ∧
      Packs { a with expected_sequence := some (x.first + .ofNat (k + 1)) } a'
        (x.slice a.offset.toNat (held + taken a.total_size (a.offset.toNat + held))) emitted := by
  have hbelow := h.below
  obtain ⟨a', emitted, hpush, hpacks⟩ := push_in_sequence (x.fragment k) h.holds
    (by rw [slice_length]; exact h.room) hactive h.transfer_id.symm h.inSequence
    (by rw [slice_length]; omega)
  refine ⟨a', emitted, hpush, ?_⟩
  rw [slice_length, h.all, show (x.fragment k).sequence + 1 = x.first + .ofNat (k + 1) by
    simp [Sender.fragment, UInt8.add_assoc]] at hpacks
  exact hpacks

/-- A fragment that does not follow the last one breaks the transfer off. -/
theorem Packing.gap (h : Packing x a chunks k held) (hactive : a.active = true) {m : Nat}
    (hk : 0 < k) (hm : k < m ∧ m < k + 256) :
    (a.push (x.fragment m)).2 = .error .SequenceGap ∧ (a.push (x.fragment m)).1.active = false := by
  rw [push_out_of_sequence hactive h.transfer_id.symm fun hseq => ?_]
  · exact ⟨rfl, rfl⟩
  have := hseq (x.first + .ofNat k) (by rw [h.expected, if_neg (by omega)])
  exact sequence_ne hm.1 hm.2 this

theorem Inv.push (h : Inv x a chunks k) {m : Nat}
    (hm : m = k ∨ 0 < k ∧ k < m ∧ m < k + 256)
    (hfit : x.offset.toNat + 6 * (m + 1) < 2 ^ 32) :
    Inv x (call x a (.push m)).1 (chunks ++ (call x a (.push m)).2.toList) (m + 1) := by
  unfold call
  dsimp only
  cases hactive : a.active with
  | false =>
    rw [push_inactive hactive]
    simpa using h.inactive (m := m + 1) (by omega) hactive
  | true =>
    obtain ⟨held, hpacking⟩ := h.packing hactive
    rcases hm with rfl | ⟨hk, hgap⟩
    · obtain ⟨a', emitted, hpush, hpacks⟩ := hpacking.push hactive hfit
      rw [hpush]
      exact hpacking.step hpacks
    · obtain ⟨herror, hinactive⟩ := hpacking.gap hactive hk hgap
      rw [show a.push (x.fragment m) = ((a.push (x.fragment m)).1, .error .SequenceGap) by
        rw [← herror]]
      simpa using h.inactive (m := m + 1) (by omega) hinactive

theorem run_inv {calls : List Call} (h : Lossy x calls) :
    Inv x (run x calls).1 (run x calls).2 (next calls) := by
  induction calls using List.reverseRecOn with
  | nil => exact start_inv
  | append_singleton calls c ih =>
    have ih := ih h.init
    have hfit := h.init.next_fits
    rw [run_snoc]
    cases c with
    | push k =>
      rw [next_push]
      refine ih.push h.push ?_
      have := h.next_fits
      rwa [next_push] at this
    | set_total_size total_size =>
      rw [next_other _ (by simp)]
      simpa [call] using ih.set_total_size total_size
    | finish =>
      rw [next_other _ (by simp)]
      exact ih.finish hfit x.transfer_id
    | stop =>
      rw [next_other _ (by simp)]
      unfold call RecoveryAssembler.stop
      dsimp only
      split
      · simpa using ih
      · exact ih.finish hfit _
    | abort =>
      rw [next_other _ (by simp)]
      simpa [call] using ih.inactive le_rfl rfl

/-- Nothing is given after the assembler stopped. -/
theorem run_inactive (calls : List Call) (h : (run x calls).1.active = false) (later : List Call) :
    (run x (calls ++ later)).2 = (run x calls).2 ∧ (run x (calls ++ later)).1.active = false := by
  induction later using List.reverseRecOn with
  | nil => simpa using h
  | append_singleton later c ih =>
    rw [← List.append_assoc, run_snoc]
    obtain ⟨hchunks, hactive⟩ := ih
    dsimp only
    rw [hchunks]
    cases c with
    | push k => simp [call, push_inactive hactive, hactive]
    | set_total_size total_size => simp [call, RecoveryAssembler.set_total_size, hactive]
    | finish => simp [call, RecoveryAssembler.finish, hactive]
    | stop => simp [call, RecoveryAssembler.stop, hactive]
    | abort => simp [call, RecoveryAssembler.abort]

theorem active_init {calls : List Call} {c : Call} (h : (run x (calls ++ [c])).1.active = true) :
    (run x calls).1.active = true := by
  by_contra hactive
  rw [(run_inactive calls (by simpa using hactive) [c]).2] at h
  cases h

/-! ## The known end -/

theorem min?_concat (ends : List Nat) (e : Nat) :
    (ends ++ [e]).min? = some (ends.min?.elim e (min · e)) := by
  cases ends with
  | nil => rfl
  | cons first rest => simp only [List.cons_append, List.min?_cons', List.foldl_append]; rfl

theorem limits_other (calls : List Call) {c : Call} (h : ∀ total_size, c ≠ .set_total_size total_size) :
    limits x (calls ++ [c]) = limits x calls := by
  cases c with
  | set_total_size total_size => exact absurd rfl (h total_size)
  | _ => simp [limits]

theorem limits_set_total_size (calls : List Call) (total_size : UInt32) :
    limits x (calls ++ [.set_total_size total_size]) =
      limits x calls ++ if total_size ≠ 0 then [total_size.toNat] else [] := by
  unfold limits
  rw [List.filterMap_append, List.append_assoc]
  by_cases h : total_size = 0 <;> simp [h]

/-- The other calls do not move the known end. -/
theorem call_total_size (a : RecoveryAssembler) {c : Call}
    (h : ∀ total_size, c ≠ .set_total_size total_size) :
    (call x a c).1.total_size = a.total_size := by
  have hfinish (transfer_id : UInt8) : (a.finish transfer_id).1.total_size = a.total_size := by
    unfold RecoveryAssembler.finish
    split <;> rfl
  cases c with
  | push k =>
    have hpush := push_total_size a (x.fragment k)
    unfold call
    dsimp only
    split <;> rename_i heq <;> rwa [heq] at hpush
  | set_total_size total_size => exact absurd rfl (h total_size)
  | finish => exact hfinish x.transfer_id
  | stop =>
    unfold call RecoveryAssembler.stop
    dsimp only
    split
    · rfl
    · exact hfinish _
  | abort => rfl

theorem run_transfer_id {calls : List Call} (h : Lossy x calls)
    (hactive : (run x calls).1.active = true) : (run x calls).1.transfer_id = x.transfer_id := by
  obtain ⟨held, hpacking⟩ := (run_inv h).packing hactive
  exact hpacking.transfer_id

/-- What an active assembler holds for the end is the least limit. A sum that does not fit in 32 bits
counts as the greatest word. -/
theorem run_total_size {calls : List Call} (h : Lossy x calls)
    (hactive : (run x calls).1.active = true) :
    (run x calls).1.total_size.map UInt32.toNat = (knownEnd x calls).map (min 0xffffffff) := by
  induction calls using List.reverseRecOn with
  | nil =>
    have hstart : (run x []).1.total_size =
        if x.length ≠ 0 then some (saturating_add x.offset x.length) else none := rfl
    rw [hstart, knownEnd, limits, List.filterMap_nil, List.append_nil]
    split
    · simp [Nat.min_comm]
    · rfl
  | append_singleton calls c ih =>
    have hbefore := active_init hactive
    have ih := ih h.init hbefore
    rw [run_snoc]
    dsimp only
    by_cases hset : ∃ total_size, c = .set_total_size total_size
    · obtain ⟨total_size, rfl⟩ := hset
      have hid := run_transfer_id h.init hbefore
      rw [knownEnd] at ih
      rw [knownEnd, limits_set_total_size]
      unfold call RecoveryAssembler.set_total_size
      dsimp only
      by_cases hzero : total_size = 0
      · rw [if_neg (by simp [hzero]), if_neg (by simp [hzero]), List.append_nil]
        exact ih
      · have := total_size.toNat_lt
        rw [if_pos ⟨hbefore, hid, hzero⟩, if_pos hzero, min?_concat]
        cases hlast : (run x calls).1.total_size with
        | none =>
          rw [hlast] at ih
          rw [Option.map_eq_none_iff.mp ih.symm]
          simp only [Option.map_some, Option.elim_none, Option.some.injEq]
          omega
        | some last =>
          rw [hlast] at ih
          obtain ⟨e, hend, heq⟩ := Option.map_eq_some_iff.mp ih.symm
          rw [hend]
          simp only [Option.map_some, Option.elim_some, min_toNat, Option.some.injEq]
          omega
    · have hother (total_size : UInt32) : c ≠ .set_total_size total_size :=
        fun heq => hset ⟨total_size, heq⟩
      rw [call_total_size _ hother, ih, knownEnd, knownEnd, limits_other _ hother]

end Runs

/-! ## The transfer -/

/-- Where the chunks stop. -/
def givenUpTo (calls : List Call) : Nat := x.offset.toNat + byteCount (run x calls).2

/-- What a transfer delivers, and what each fragment that reaches the active assembler does. -/
structure Correct (calls : List Call) : Prop where
  faithful : ∃ stop, Faithful x (run x calls).2 stop
  /-- An active assembler has the source without a hole, in the chunks and behind them in the
  buffer. -/
  packed : ∀ before after, calls = before ++ after → (run x before).1.active = true →
    let bytes := held (run x before).1
    Faithful x (run x before).2 (givenUpTo x before) ∧
      bytes = x.slice (givenUpTo x before) bytes.length ∧ bytes.length < 16
  /-- The first fragment after a missing one. Only bytes from before the gap are ever given. -/
  gap : ∀ before k after, calls = before ++ .push k :: after → (run x before).1.active = true →
    k ≠ next before →
      ((run x before).1.push (x.fragment k)).2 = .error .SequenceGap ∧
      (run x calls).2 = (run x before).2 ∧
      ∃ stop, Faithful x (run x calls).2 stop ∧ stop ≤ x.offset.toNat + 6 * next before
  /-- A fragment in sequence is taken up to the known end. If the transfer ends with it, nothing is
  left. -/
  in_sequence : ∀ before k after, calls = before ++ .push k :: after →
    (run x before).1.active = true → k = next before →
      let a := (run x before).1
      let p := givenUpTo x before + (held a).length
      ∃ a' emitted, a.push (x.fragment k) = (a', .ok emitted) ∧
        given emitted ++ held a' = held a ++ (x.fragment k).data.toList.take
          ((knownEnd x before).elim 6 fun e => min 6 (e - p)) ∧
        (a'.active = false → held a' = [] ∧ ∃ chunk, emitted = some chunk ∧ chunk.end_of_file = true)
  /-- `finish` and `stop` give what the buffer holds. -/
  finish : ∀ before c after, calls = before ++ c :: after → c = .finish ∨ c = .stop →
    (run x before).1.active = true →
      ∃ chunk, (run x calls).2 = (run x before).2 ++ [chunk] ∧ chunk.end_of_file = true ∧
        given (some chunk) = held (run x before).1
  /-- `abort` gives nothing. -/
  abort : ∀ before after, calls = before ++ .abort :: after →
    (run x calls).2 = (run x before).2

section Correct

variable {x} {calls : List Call}

/-- A call that leaves the assembler inactive is the last that gives a chunk. -/
theorem run_last (before after : List Call) (c : Call)
    (hactive : (call x (run x before).1 c).1.active = false) :
    (run x (before ++ c :: after)).2 =
      (run x before).2 ++ (call x (run x before).1 c).2.toList := by
  have hsnoc := run_snoc (x := x) before c
  have hrest := run_inactive (x := x) (before ++ [c]) (by rw [hsnoc]; exact hactive) after
  rw [List.append_cons, hrest.1, hsnoc]

theorem run_packed (h : Lossy x calls) (hactive : (run x calls).1.active = true) :
    ∃ n, Packing x (run x calls).1 (run x calls).2 (next calls) n ∧
      held (run x calls).1 = x.slice (givenUpTo x calls) n ∧
        (run x calls).1.offset.toNat = givenUpTo x calls := by
  obtain ⟨n, hpacking⟩ := (run_inv h).packing hactive
  have hstop : (run x calls).1.offset.toNat = givenUpTo x calls :=
    hpacking.faithful.contiguous.stop_eq
  refine ⟨n, hpacking, ?_, hstop⟩
  rw [hpacking.holds.held, hstop]

theorem packed_of_lossy (h : Lossy x calls) (hactive : (run x calls).1.active = true) :
    let bytes := held (run x calls).1
    Faithful x (run x calls).2 (givenUpTo x calls) ∧
      bytes = x.slice (givenUpTo x calls) bytes.length ∧ bytes.length < 16 := by
  obtain ⟨n, hpacking, hheld, hstop⟩ := run_packed h hactive
  dsimp only
  rw [hheld, slice_length, ← hstop]
  exact ⟨hpacking.faithful, rfl, hpacking.room⟩

theorem gap_of_lossy {before : List Call} {k : Nat} (after : List Call)
    (h : Lossy x (before ++ [.push k])) (hactive : (run x before).1.active = true)
    (hk : k ≠ next before) :
    ((run x before).1.push (x.fragment k)).2 = .error .SequenceGap ∧
      (run x (before ++ .push k :: after)).2 = (run x before).2 := by
  obtain ⟨n, hpacking⟩ := (run_inv h.init).packing hactive
  have hgap : 0 < next before ∧ next before < k ∧ k < next before + 256 := h.push.resolve_left hk
  obtain ⟨herror, hinactive⟩ := hpacking.gap hactive hgap.1 hgap.2
  have hcall : call x (run x before).1 (.push k) =
      (((run x before).1.push (x.fragment k)).1, none) := by
    rw [call, show (run x before).1.push (x.fragment k) =
      (((run x before).1.push (x.fragment k)).1, .error .SequenceGap) by rw [← herror]]
  refine ⟨herror, ?_⟩
  rw [run_last before after _ (by rw [hcall]; exact hinactive), hcall]
  simp

/-- What the assembler takes of a fragment, by the limits of the history. -/
theorem taken_of_lossy (h : Lossy x calls) (hactive : (run x calls).1.active = true) {p : Nat}
    (hp : p + 6 < 2 ^ 32) :
    taken (run x calls).1.total_size p = (knownEnd x calls).elim 6 fun e => min 6 (e - p) := by
  have hknown := run_total_size h hactive
  cases hlimit : (run x calls).1.total_size with
  | none =>
    rw [hlimit] at hknown
    rw [Option.map_eq_none_iff.mp hknown.symm]
    rfl
  | some total_size =>
    rw [hlimit] at hknown
    obtain ⟨e, hend, heq⟩ := Option.map_eq_some_iff.mp hknown.symm
    rw [hend]
    -- A limit that was cut to 32 bits is too far away to matter.
    simp only [taken, Option.elim_some]
    omega

theorem in_sequence_of_lossy {before : List Call}
    (h : Lossy x (before ++ [.push (next before)])) (hactive : (run x before).1.active = true) :
    let a := (run x before).1
    let p := givenUpTo x before + (held a).length
    ∃ a' emitted, a.push (x.fragment (next before)) = (a', .ok emitted) ∧
      given emitted ++ held a' = held a ++ (x.fragment (next before)).data.toList.take
        ((knownEnd x before).elim 6 fun e => min 6 (e - p)) ∧
      (a'.active = false → held a' = [] ∧
        ∃ chunk, emitted = some chunk ∧ chunk.end_of_file = true) := by
  have hfit := h.next_fits
  rw [next_push] at hfit
  obtain ⟨n, hpacking, hheld, hstop⟩ := run_packed h.init hactive
  have hbelow := hpacking.below
  obtain ⟨a', emitted, hpushed, hpacks⟩ := hpacking.push hactive hfit
  refine ⟨a', emitted, hpushed, ?_, hpacks.closed hactive⟩
  rw [hpacks.bytes, hheld, slice_length, ← hstop,
    ← taken_of_lossy h.init hactive (p := (run x before).1.offset.toNat + n) (by omega),
    ← hpacking.all]
  rfl

theorem finish_of_lossy {before after : List Call} {c : Call} (h : Lossy x before)
    (hc : c = .finish ∨ c = .stop) (hactive : (run x before).1.active = true) :
    ∃ chunk, (run x (before ++ c :: after)).2 = (run x before).2 ++ [chunk] ∧
      chunk.end_of_file = true ∧ given (some chunk) = held (run x before).1 := by
  obtain ⟨n, hpacking⟩ := (run_inv h).packing hactive
  have hbelow := hpacking.below
  have hfit := h.next_fits
  obtain ⟨hchunk, hgave⟩ := hpacking.holds.take_chunk (by rw [slice_length]; omega) true
  have hcall : call x (run x before).1 c =
      (((run x before).1.take_chunk true).1, some ((run x before).1.take_chunk true).2) := by
    have hid := hpacking.transfer_id
    rcases hc with rfl | rfl
    · simp [call, RecoveryAssembler.finish, hactive, hid]
    · simp [call, RecoveryAssembler.stop, RecoveryAssembler.finish, hactive]
  refine ⟨_, ?_, hchunk.end_of_file, ?_⟩
  · rw [run_last before after c (by rw [hcall, hgave.active]; simp), hcall, Option.toList_some]
  · rw [hchunk.given, hpacking.holds.held]

end Correct

theorem lossy_transfer (x : Sender) (calls : List Call) (h : Lossy x calls) : Correct x calls where
  faithful := (run_inv h).faithful.imp fun _ => And.left
  packed before after heq hactive := by
    subst heq
    exact packed_of_lossy h.init hactive
  gap before k after heq hactive hk := by
    subst heq
    have hpush : Lossy x (before ++ [.push k]) := by
      rw [List.append_cons] at h
      exact h.init
    obtain ⟨herror, hchunks⟩ := gap_of_lossy after hpush hactive hk
    refine ⟨herror, hchunks, ?_⟩
    rw [hchunks]
    exact (run_inv hpush.init).faithful
  in_sequence before k after heq hactive hk := by
    subst heq hk
    rw [List.append_cons] at h
    exact in_sequence_of_lossy h.init hactive
  finish before c after heq hc hactive := by
    subst heq
    exact finish_of_lossy h.init hc hactive
  abort before after heq := by
    subst heq
    rw [run_last before after .abort rfl]
    simp [call]

/-- Three of five fragments arrive, then the fourth is missing. -/
theorem lossy_transfer_gap :
    let x : Sender :=
      { transfer_id := 7, source := .InternalFlash, offset := 0x100, length := 0x800, first := 254,
        bytes := fun i => .ofNat i }
    let calls : List Call := [.push 0, .push 1, .set_total_size 0x1000, .push 2, .push 4, .stop]
    Lossy x calls ∧ knownEnd x calls = some 0x900 ∧ Correct x calls := by
  intro x calls
  have h : Lossy x calls := ⟨by decide, by decide, by decide⟩
  exact ⟨h, by decide, lossy_transfer x calls h⟩

end Comboard.Transfer
