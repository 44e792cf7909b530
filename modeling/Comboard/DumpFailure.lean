import Comboard.Code.CanCodec
import Comboard.LoraCodec
import Comboard.Resume

/-!
# Who a failing dump takes along

Every failure of the assembler goes through `fail_recovery_transfer`, which knows no transfer: it
fails whatever request is pending, and it sends a stop that names the position of the assembler.
-/

namespace Comboard.DumpFailure

open Lib Lib.Fields RecoveryAssembler Assembler CommandPath RecoveryPath Resume
open SessionSteps (fail_failed queue_or_fail_cases step_message)

/-! ## A chunk on its way -/

/-- The chunk has an offset of three bytes, and there is room for it. -/
def Queues (s : RecoveryState) (offset : UInt32) : Prop :=
  offset ≤ 0x00ffffff ∧ s.recovery_lora_channel.is_full = false

theorem chunk_encodes (chunk : RecoveryChunk) :
    (∃ frame, (ApplicationPacket.RecoveryLogData chunk.packet).encode = .ok frame) ↔
      chunk.offset ≤ 0x00ffffff := by
  rw [LoraCodec.encode_iff]
  constructor
  · rintro ⟨⟨hoffset, -⟩, -⟩
    exact hoffset
  · intro hoffset
    have hlength : (UInt8.ofNat chunk.data_length).toNat ≤ 16 := by
      rw [UInt8.toNat_ofNat']
      omega
    have hoffset' : chunk.offset.toNat ≤ 0x00ffffff := UInt32.le_iff_toNat_le.mp hoffset
    have hbits : ∀ b : Bool, b.toNat < 2 := Bool.toNat_lt
    refine ⟨⟨hoffset, UInt8.le_iff_toNat_le.mpr hlength⟩, ?_⟩
    unfold LoraCodec.layout
    simp only [fits_append, fits_cons, fits_nil, and_true, RecoveryChunk.packet]
    refine ⟨⟨by decide, chunk.transfer_id.toNat_lt, hbits _, hbits _, by decide, by omega, ?_⟩,
      LoraCodec.fits_bytes _⟩
    exact UInt8.toNat_lt _

/-- A chunk is queued, or the transfer fails. -/
theorem queue_or_fail_iff (s : RecoveryState) (chunk : RecoveryChunk) :
    (Queues s chunk.offset → ∃ channel, s.queue_or_fail chunk =
        ({ s with recovery_lora_channel := channel }, true, [.chunk chunk true])) ∧
      (¬ Queues s chunk.offset → ∃ v : RecoveryState, v.recovery_session = s.recovery_session ∧
        (s.queue_or_fail chunk).1 = (v.fail_recovery_transfer .InternalError true).1) := by
  have hencodes := chunk_encodes chunk
  unfold RecoveryState.queue_or_fail LoraChannels.queue_recovery_chunk Queues
  rw [← hencodes]
  cases (ApplicationPacket.RecoveryLogData chunk.packet).encode with
  | error =>
    refine ⟨?_, fun _ => ⟨s, rfl, rfl⟩⟩
    rintro ⟨⟨frame, hframe⟩, -⟩
    cases hframe
  | ok frame =>
    have hsent := s.recovery_lora_channel.offer_sent (.queued frame .Recovery)
    dsimp only
    rcases hoffer : s.recovery_lora_channel.offer (.queued frame .Recovery) with ⟨channel, queued⟩
    rw [hoffer] at hsent
    cases queued with
    | true =>
      refine ⟨fun _ => ⟨channel, rfl⟩, ?_⟩
      intro hnot
      exact absurd ⟨⟨frame, rfl⟩, by simpa using hsent.symm⟩ hnot
    | false =>
      refine ⟨?_, fun _ => ⟨{ s with recovery_lora_channel := channel }, rfl, rfl⟩⟩
      rintro ⟨-, hroom⟩
      rw [hroom] at hsent
      cases hsent

/-! ## A fragment -/

/-- A fragment completes a chunk: the buffer is full, or the known end is reached. -/
def Completes (a : RecoveryAssembler) : Prop :=
  16 ≤ a.data_length.val + taken a.total_size (a.offset.toNat + a.data_length.val) ∨
    ended a.total_size (a.offset.toNat + (a.data_length.val +
      taken a.total_size (a.offset.toNat + a.data_length.val))) = true

/-- The fragment continues the dump that the assembler is at, and its chunk can be queued. -/
def GoesOn (s : RecoveryState) (fragment : RecoveryLogData) : Prop :=
  s.recovery_assembler.active = true ∧ fragment.transfer_id = s.recovery_assembler.transfer_id ∧
    InSequence s.recovery_assembler fragment ∧
    (Completes s.recovery_assembler → Queues s s.recovery_assembler.offset)

section Fragment

variable {s : RecoveryState} {fragment : RecoveryLogData} {dump : Dump} {held : List UInt8}

/-- In sequence, the only thing that can fail is the chunk. -/
theorem in_sequence (hrunning : Running dump s.recovery_assembler held)
    (hactive : s.recovery_assembler.active = true)
    (hid : fragment.transfer_id = s.recovery_assembler.transfer_id)
    (hseq : InSequence s.recovery_assembler fragment) :
    (¬ Completes s.recovery_assembler ∧ ∃ a', s.apply_recovery_log_data fragment =
        ({ s with recovery_assembler := a' }, [])) ∨
      Completes s.recovery_assembler ∧ ∃ a' chunk, chunk.offset = s.recovery_assembler.offset ∧
        s.apply_recovery_log_data fragment =
          ((RecoveryState.queue_or_fail { s with recovery_assembler := a' } chunk).1,
            (RecoveryState.queue_or_fail { s with recovery_assembler := a' } chunk).2.2) := by
  have hroom := hrunning.room
  have hbelow := hrunning.below
  obtain ⟨a', emitted, hpush, hpacks⟩ :=
    push_in_sequence fragment hrunning.holds hroom hactive hid hseq (by omega)
  have htaken := taken_le s.recovery_assembler.total_size
    (s.recovery_assembler.offset.toNat + held.length)
  have hall := held_taken_length held fragment s.recovery_assembler.total_size
    (s.recovery_assembler.offset.toNat + held.length)
  unfold RecoveryState.apply_recovery_log_data Completes
  rw [hpush, hrunning.holds.length, ← hall]
  cases hpacks with
  | keeps hlen hend hfill =>
    exact .inl ⟨not_or.mpr ⟨Nat.not_le.mpr hlen, Bool.eq_false_iff.mp hend⟩, a', rfl⟩
  | ends hlen hend hchunk => exact .inr ⟨.inr hend, a', _, hchunk.offset, rfl⟩
  | fills hlen hend hchunk => exact .inr ⟨.inl hlen, a', _, hchunk.offset, rfl⟩

theorem goes_on (hrunning : Running dump s.recovery_assembler held) (h : GoesOn s fragment) :
    ∃ s' reports, s.apply_recovery_log_data fragment = (s', reports) ∧
      s'.recovery_session = s.recovery_session ∧
      ∀ packet queued, .command_result packet queued ∉ reports := by
  obtain ⟨hactive, hid, hseq, hqueues⟩ := h
  rcases in_sequence hrunning hactive hid hseq with ⟨-, a', happly⟩ |
    ⟨hcompletes, a', chunk, hoffset, happly⟩
  · exact ⟨_, _, happly, rfl, by simp⟩
  · have hroom : Queues { s with recovery_assembler := a' } chunk.offset :=
      hoffset ▸ hqueues hcompletes
    obtain ⟨channel, hqueued⟩ := (queue_or_fail_iff _ chunk).1 hroom
    rw [hqueued] at happly
    exact ⟨_, _, happly, rfl, by simp⟩

theorem not_goes_on
    (hrunning : s.recovery_assembler.active = true → ∃ dump held,
      Running dump s.recovery_assembler held) (h : ¬ GoesOn s fragment) :
    (s.apply_recovery_log_data fragment).1.recovery_session.pending = none := by
  cases hactive : s.recovery_assembler.active with
  | false =>
    unfold RecoveryState.apply_recovery_log_data
    rw [push_inactive hactive]
    exact (fail_failed ..).session
  | true =>
    obtain ⟨dump, held, hrunning⟩ := hrunning hactive
    by_cases hid : fragment.transfer_id = s.recovery_assembler.transfer_id
    · by_cases hseq : InSequence s.recovery_assembler fragment
      · rcases in_sequence hrunning hactive hid hseq with ⟨hkeeps, -⟩ |
          ⟨hcompletes, a', chunk, hoffset, happly⟩
        · exact absurd ⟨hactive, hid, hseq, fun hc => absurd hc hkeeps⟩ h
        · have hroom : ¬ Queues { s with recovery_assembler := a' } chunk.offset := by
            intro hqueues
            rw [hoffset] at hqueues
            exact h ⟨hactive, hid, hseq, fun _ => hqueues⟩
          obtain ⟨v, -, hfail⟩ := (queue_or_fail_iff _ chunk).2 hroom
          rw [happly, hfail]
          exact (fail_failed ..).session
      · unfold RecoveryState.apply_recovery_log_data
        rw [push_out_of_sequence hactive hid hseq]
        exact (fail_failed ..).session
    · unfold RecoveryState.apply_recovery_log_data
      rw [push_wrong_transfer hactive hid]
      exact (fail_failed ..).session

end Fragment

/-! ## A fragment of another transfer -/

/-- A fragment leaves the pending request alone exactly if it continues the dump that the assembler
is at, and what it completes can be queued. Whose request is pending does not matter. -/
theorem fragment_spares_iff {past reports : List Report} {w w' : CommandPath}
    {fragment : RecoveryLogData} {received_at_ms : Nat} {pending : PendingRecovery}
    (hrun : machine.Run Machine.anyStep past w)
    (hstep : step w (.can_receive (.RecoveryLogData fragment) received_at_ms) =
      some (w', reports))
    (hpending : w.state.recovery_session.pending = some pending) :
    (w'.state.recovery_session.pending = some pending ∧
        ∀ packet queued, .command_result packet queued ∈ reports →
          packet.transaction_id ≠ pending.transaction_id) ↔
      GoesOn w.state.toRecoveryState fragment := by
  have happly : w.state.apply_recovery_log_data fragment = (w'.state.toRecoveryState, reports) :=
    @step_message w w' (.fragment fragment) _ _ hstep
  have hinv := inv_run hrun
  constructor
  · rintro ⟨hkept, -⟩
    by_contra h
    have hended := not_goes_on (fun hactive => (hinv hactive).imp fun _ ⟨held, _, h⟩ => ⟨held, h⟩) h
    rw [happly, hkept] at hended
    cases hended
  · intro h
    obtain ⟨dump, held, -, hrunning⟩ := hinv h.1
    obtain ⟨s', reports', hgoes, hsession, hreports⟩ := goes_on hrunning h
    rw [happly, Prod.mk.injEq] at hgoes
    obtain ⟨rfl, rfl⟩ := hgoes
    exact ⟨hsession ▸ hpending, fun packet queued hmem => absurd hmem (hreports packet queued)⟩

/-! ### A stop and a late fragment

Dump 7 runs. Request 8 stops it, and a fragment of dump 7 was still on the bus.
-/

def localCommand (transaction_id command : UInt8) : List Action :=
  [.uplink (.ComBoardLocal transaction_id command (Vector.replicate 6 0)), .command, .can_take,
    .can_transmitted true]

def dumpSevenFragment (sequence : UInt8) : RecoveryLogData where
  transfer_id := 7
  sequence
  data := Vector.replicate 6 1

def stopEight : PendingRecovery where
  transaction_id := 8
  command := 120
  opcode := .StopLogDump
  source := .InternalFlash

theorem late_fragment : ∃ past w w' reports, machine.Run Machine.anyStep past w ∧
    step w (.can_receive (.RecoveryLogData (dumpSevenFragment 0)) 0) = some (w', reports) ∧
    w.state.recovery_session.pending = some stopEight ∧
    w'.state.recovery_session.pending = none := by
  have hrun : ∃ past w, machine.Run Machine.anyStep past w ∧
      w.state.recovery_session.pending = some stopEight ∧
      ((step w (.can_receive (.RecoveryLogData (dumpSevenFragment 0)) 0)).any fun r =>
        r.1.state.recovery_session.pending = none) = true :=
    Machine.exists_run
      (fun w _ => w.state.recovery_session.pending = some stopEight ∧
        ((step w (.can_receive (.RecoveryLogData (dumpSevenFragment 0)) 0)).any fun r =>
          r.1.state.recovery_session.pending = none) = true)
      (localCommand 7 102 ++ localCommand 8 120) rfl (fun _ _ _ => trivial) (by decide +kernel)
  obtain ⟨past, w, hrun, hpending, hstep⟩ := hrun
  obtain ⟨⟨w', reports⟩, hstep, hended⟩ := (Option.any_eq_true _ _).mp hstep
  exact ⟨past, w, w', reports, hrun, hstep, hpending, by simpa using hended⟩

theorem late_fragment_ends_stop :
    ¬ ∀ past w w' fragment received_at_ms reports pending, machine.Run Machine.anyStep past w →
      step w (.can_receive (.RecoveryLogData fragment) received_at_ms) = some (w', reports) →
      w.state.recovery_session.pending = some pending →
      fragment.transfer_id ≠ pending.transaction_id →
      w'.state.recovery_session.pending = some pending ∧
        ∀ packet queued, .command_result packet queued ∈ reports →
          packet.transaction_id ≠ pending.transaction_id := by
  intro h
  obtain ⟨past, w, w', reports, hrun, hstep, hpending, hended⟩ := late_fragment
  have hkept := (h past w w' _ _ reports _ hrun hstep hpending (by decide)).1
  rw [hended] at hkept
  cases hkept

/-! ### A wake-up while a dump goes on

Dump 7 is answered by `Ready`, which ends its request, and goes on. Request 8 is a wake-up.
-/

def wakeEight : PendingRecovery where
  transaction_id := 8
  command := 119
  opcode := .Wake
  source := .InternalFlash

def readySeven : RecoveryStatus where
  opcode := .StartLogDump
  transfer_id := 7
  status := .Ready
  source := .InternalFlash
  total_size := 0

/-- Dump 7 has started without a known end, and no fragment has come. -/
def StillFresh (a : RecoveryAssembler) : Prop :=
  a.active = true ∧ a.transfer_id = 7 ∧ a.expected_sequence = none ∧ a.data_length = 0 ∧
    a.total_size = none

instance (a : RecoveryAssembler) : Decidable (StillFresh a) := by
  unfold StillFresh
  infer_instance

theorem StillFresh.goes_on {s : RecoveryState} (h : StillFresh s.recovery_assembler) :
    GoesOn s (dumpSevenFragment 0) := by
  obtain ⟨hactive, hid, hexpected, hempty, hsize⟩ := h
  refine ⟨hactive, hid.symm, ?_, ?_⟩
  · intro expected h
    rw [hexpected] at h
    cases h
  · intro h
    unfold Completes at h
    rw [hempty, hsize] at h
    simp [taken, Assembler.ended] at h

theorem fragment_spares_iff_wake : ∃ past w w' reports, machine.Run Machine.anyStep past w ∧
    step w (.can_receive (.RecoveryLogData (dumpSevenFragment 0)) 0) = some (w', reports) ∧
    w.state.recovery_session.pending = some wakeEight ∧
    GoesOn w.state.toRecoveryState (dumpSevenFragment 0) ∧
    w'.state.recovery_session.pending = some wakeEight ∧
    ∀ packet queued, .command_result packet queued ∈ reports →
      packet.transaction_id ≠ wakeEight.transaction_id := by
  have hrun : ∃ past w, machine.Run Machine.anyStep past w ∧
      w.state.recovery_session.pending = some wakeEight ∧ StillFresh w.state.recovery_assembler ∧
      (step w (.can_receive (.RecoveryLogData (dumpSevenFragment 0)) 0)).isSome = true :=
    Machine.exists_run
      (fun w _ => w.state.recovery_session.pending = some wakeEight ∧
        StillFresh w.state.recovery_assembler ∧
        (step w (.can_receive (.RecoveryLogData (dumpSevenFragment 0)) 0)).isSome = true)
      (localCommand 7 102 ++ [.can_receive (.RecoveryStatus readySeven) 0] ++ localCommand 8 119)
      rfl (fun _ _ _ => trivial) (by decide +kernel)
  obtain ⟨past, w, hrun, hpending, hfresh, hstep⟩ := hrun
  obtain ⟨⟨w', reports⟩, hstep⟩ := Option.isSome_iff_exists.mp hstep
  have hgoes : GoesOn w.state.toRecoveryState (dumpSevenFragment 0) := hfresh.goes_on
  exact ⟨past, w, w', reports, hrun, hstep, hpending, hgoes,
    (fragment_spares_iff hrun hstep hpending).mpr hgoes⟩

/-! ## The stop request -/

/-- How many bytes a message brings before the transfer can fail. -/
def brings (a : RecoveryAssembler) : Message → Nat
  | .status _ => 0
  | .fragment fragment =>
    if fragment.transfer_id = a.transfer_id ∧
        a.expected_sequence.all (fragment.sequence = ·) then
      taken a.total_size (a.offset.toNat + a.data_length.val)
    else 0

/-- The offset that the dump has got to with a message. -/
def reached (a : RecoveryAssembler) (m : Message) : Nat :=
  a.offset.toNat + a.data_length.val + brings a m

theorem inSequence_iff {a : RecoveryAssembler} {fragment : RecoveryLogData} :
    InSequence a fragment ↔ a.expected_sequence.all (fragment.sequence = ·) = true := by
  unfold InSequence
  cases a.expected_sequence <;> simp

section Stop

variable {s : RecoveryState} {control : RecoveryControl} {queued : Bool} {dump : Dump}
  {held : List UInt8}

theorem send_stop_length {resume : Option RecoveryResume}
    (h : .stop control queued ∈ (s.send_stop true resume).2) : control.length = 0 := by
  cases resume with
  | none => cases h
  | some resume =>
    simp only [RecoveryState.send_stop, if_true, List.mem_singleton, Report.stop.injEq] at h
    rw [h.1]
    rfl

theorem fail_stop {reason : CommandReason} {before : List Report}
    (hbefore : before = [] ∨ ∃ chunk, before = [.chunk chunk false])
    (h : .stop control queued ∈ before ++ (s.fail_recovery_transfer reason true).2) :
    control.length = 0 ∧ control.offset = s.recovery_assembler.position := by
  have hfail : .stop control queued ∈ (s.fail_recovery_transfer reason true).2 := by
    rcases hbefore with rfl | ⟨chunk, rfl⟩
    · exact h
    · simpa using h
  refine ⟨?_, (fail_names hfail).1 control queued hfail⟩
  unfold RecoveryState.fail_recovery_transfer at hfail
  rcases List.mem_append.mp hfail with hstop | hresult
  · exact send_stop_length hstop
  · exact absurd hresult (no_stop (queue_some_result_keeps _ _).2 _ _)

/-- What a stop request names. -/
def StopsAt (control : RecoveryControl) (offset : Nat) : Prop :=
  control.length = 0 ∧ control.offset.toNat = offset

theorem fragment_stop_offset {fragment : RecoveryLogData}
    (hrunning : Running dump s.recovery_assembler held)
    (hactive : s.recovery_assembler.active = true)
    (h : .stop control queued ∈ (s.apply_recovery_log_data fragment).2) :
    StopsAt control (reached s.recovery_assembler (.fragment fragment)) := by
  have hroom := hrunning.room
  have hbelow := hrunning.below
  have hlength := hrunning.holds.length
  have hposition := hrunning.position
  unfold RecoveryState.apply_recovery_log_data at h
  unfold reached brings
  dsimp only
  by_cases hid : fragment.transfer_id = s.recovery_assembler.transfer_id
  · by_cases hseq : InSequence s.recovery_assembler fragment
    · obtain ⟨a', emitted, hpush, hpacks⟩ :=
        push_in_sequence fragment hrunning.holds hroom hactive hid hseq (by omega)
      have htaken := taken_le s.recovery_assembler.total_size
        (s.recovery_assembler.offset.toNat + held.length)
      have hall := held_taken_length held fragment s.recovery_assembler.total_size
        (s.recovery_assembler.offset.toNat + held.length)
      rw [hpush] at h
      rw [if_pos ⟨hid, inSequence_iff.mp hseq⟩, hlength]
      cases emitted with
      | none => cases h
      | some chunk =>
        have hafter := Packs.position hpacks (by dsimp only; omega)
        dsimp only at h hafter
        rcases queue_or_fail_cases { s with recovery_assembler := a' } chunk with
          ⟨t, hqueue, -⟩ | ⟨v, ⟨-, hv, -⟩, hqueue⟩
        · rw [hqueue] at h
          simp at h
        · rw [hqueue] at h
          obtain ⟨hzero, hoffset⟩ := fail_stop (.inr ⟨chunk, rfl⟩) h
          exact ⟨hzero, by rw [hoffset, hv, hafter, hall, Nat.add_assoc]⟩
    · rw [push_out_of_sequence hactive hid hseq] at h
      obtain ⟨hzero, hoffset⟩ := fail_stop (.inl rfl) h
      rw [if_neg fun hboth => hseq (inSequence_iff.mpr hboth.2), Nat.add_zero, hlength, ← hposition]
      exact ⟨hzero, by rw [hoffset]; simp [RecoveryAssembler.position]⟩
  · rw [push_wrong_transfer hactive hid] at h
    obtain ⟨hzero, hoffset⟩ := fail_stop (.inl rfl) h
    rw [if_neg fun hboth => hid hboth.1, Nat.add_zero, hlength, ← hposition]
    exact ⟨hzero, congrArg UInt32.toNat hoffset⟩

theorem status_stop_offset {status : RecoveryStatus}
    (hrunning : Running dump s.recovery_assembler held)
    (h : .stop control queued ∈ (s.apply_recovery_status status).2) :
    StopsAt control (reached s.recovery_assembler (.status status)) := by
  have hlength := hrunning.holds.length
  have hset := hrunning.set_total_size status.transfer_id status.total_size
  have hbelow := hset.below
  have hroom := hset.room
  have hoffset := set_total_size_offset s.recovery_assembler status.transfer_id status.total_size
  have hsession : ∀ t : RecoveryState, .stop control queued ∉ (t.apply_session_status status).2 :=
    fun t => no_stop (apply_session_status_keeps t status).2 control queued
  unfold reached brings
  rw [Nat.add_zero, hlength, ← hoffset]
  unfold RecoveryState.apply_recovery_status at h
  generalize s.recovery_assembler.set_total_size status.transfer_id status.total_size = a at *
  dsimp only at h
  by_cases hcomplete : status.status = .Complete
  · rw [if_pos hcomplete] at h
    unfold RecoveryAssembler.finish at h
    by_cases hfinish : ¬ a.active ∨ a.transfer_id ≠ status.transfer_id
    · rw [if_pos hfinish] at h
      exact absurd h (hsession _)
    · rw [if_neg hfinish] at h
      obtain ⟨-, hgave⟩ := hset.holds.take_chunk (by omega) true
      dsimp only at h
      rcases queue_or_fail_cases { s with recovery_assembler := (a.take_chunk true).1 }
        (a.take_chunk true).2 with ⟨t, hqueue, -⟩ | ⟨v, ⟨-, hv, -⟩, hqueue⟩
      · rw [hqueue] at h
        have hlater : .stop control queued ∈ (t.apply_session_status status).2 := by simpa using h
        exact absurd hlater (hsession t)
      · rw [hqueue] at h
        have hgone := hgave.offset
        obtain ⟨hzero, hposition⟩ := fail_stop (.inr ⟨_, rfl⟩) h
        refine ⟨hzero, ?_⟩
        rw [hposition, hv, hgave.holds.position (by rw [hgone, List.length_nil]; omega), hgone,
          List.length_nil, Nat.add_zero]
  · rw [if_neg hcomplete] at h
    exact absurd h (hsession _)

/-- The CAN codec takes offsets of three bytes. -/
theorem stop_encodes {offset : Nat} (h : StopsAt control offset) :
    (∃ payload, (CanTxMessage.RecoveryControl control).encode_payload = .ok payload) ↔
      offset ≤ 0x00ffffff := by
  obtain ⟨hzero, hoffset⟩ := h
  have hlarge : control.offset > 0x00ffffff ↔ ¬ offset ≤ 0x00ffffff := by
    rw [gt_iff_lt, UInt32.lt_iff_toNat_lt, hoffset, Nat.not_le]
    rfl
  have hlength : ¬ control.length > 0x00ffffff := by
    rw [hzero]
    decide
  unfold CanTxMessage.encode_payload
  dsimp only
  split <;> rename_i hguard
  · have hnot := hlarge.mp (hguard.resolve_right hlength)
    exact ⟨nofun, fun hle => absurd hle hnot⟩
  · refine ⟨fun _ => ?_, fun _ => ⟨_, rfl⟩⟩
    by_contra hnot
    exact hguard (.inl (hlarge.mpr hnot))

end Stop

/-- A dump that fails can be stopped exactly if what it has got to has three bytes. -/
theorem stop_accepted_iff {past reports : List Report} {w w' : CommandPath} {a : Action}
    {control : RecoveryControl} {queued : Bool} (hrun : machine.Run Machine.anyStep past w)
    (hactive : w.state.recovery_assembler.active = true)
    (hstep : step w a = some (w', reports)) (hstop : .stop control queued ∈ reports) :
    ∃ m received_at_ms, a = .can_receive (Message.received m) received_at_ms ∧
      ((∃ payload, (CanTxMessage.RecoveryControl control).encode_payload = .ok payload) ↔
        reached w.state.recovery_assembler m ≤ 0x00ffffff) := by
  obtain ⟨dump, held, -, hrunning⟩ := inv_run hrun hactive
  obtain ⟨m, received_at_ms, s, ha, hs, hhandle⟩ := stop_received hstep hstop
  refine ⟨m, received_at_ms, ha, ?_⟩
  rw [← hs] at hrunning hactive ⊢
  have hreports : .stop control queued ∈ (handle s m).2 := by rwa [hhandle]
  cases m with
  | status status => exact stop_encodes (status_stop_offset hrunning hreports)
  | fragment fragment => exact stop_encodes (fragment_stop_offset hrunning hactive hreports)

/-! ### A dump near the end of the offsets

Dump 7 starts at 0xfffff0. Its first chunk is queued, and then a fragment is lost.
-/

def dumpNearEnd : List Action :=
  [.uplink (.ComBoardLocal 7 102 #v[0xf0, 0xff, 0xff, 0, 0, 0]), .command, .can_take,
    .can_transmitted true, .can_receive (.RecoveryLogData (dumpSevenFragment 0)) 0,
    .can_receive (.RecoveryLogData (dumpSevenFragment 1)) 0,
    .can_receive (.RecoveryLogData (dumpSevenFragment 2)) 0]

def stopPastEnd : RecoveryControl where
  opcode := .StopLogDump
  source := .InternalFlash
  transfer_id := 7
  offset := 0x01000002
  length := 0

theorem gap_past_end : ∃ past w w' reports, machine.Run Machine.anyStep past w ∧
    w.state.recovery_assembler.active = true ∧
    step w (.can_receive (.RecoveryLogData (dumpSevenFragment 4)) 0) = some (w', reports) ∧
    .stop stopPastEnd true ∈ reports := by
  have hrun : ∃ past w, machine.Run Machine.anyStep past w ∧
      w.state.recovery_assembler.active = true ∧
      ((step w (.can_receive (.RecoveryLogData (dumpSevenFragment 4)) 0)).any fun r =>
        .stop stopPastEnd true ∈ r.2) = true :=
    Machine.exists_run
      (fun w _ => w.state.recovery_assembler.active = true ∧
        ((step w (.can_receive (.RecoveryLogData (dumpSevenFragment 4)) 0)).any fun r =>
          .stop stopPastEnd true ∈ r.2) = true)
      dumpNearEnd rfl (fun _ _ _ => trivial) (by decide +kernel)
  obtain ⟨past, w, hrun, hactive, hstep⟩ := hrun
  obtain ⟨⟨w', reports⟩, hstep, hstop⟩ := (Option.any_eq_true _ _).mp hstep
  exact ⟨past, w, w', reports, hrun, hactive, hstep, by simpa using hstop⟩

theorem stop_past_end_rejected :
    ¬ ∀ past w a w' reports control queued, machine.Run Machine.anyStep past w →
      w.state.recovery_assembler.active = true → step w a = some (w', reports) →
      .stop control queued ∈ reports →
      ∃ payload, (CanTxMessage.RecoveryControl control).encode_payload = .ok payload := by
  intro h
  obtain ⟨past, w, w', reports, hrun, hactive, hstep, hstop⟩ := gap_past_end
  obtain ⟨payload, hpayload⟩ := h past w _ w' reports _ _ hrun hactive hstep hstop
  have hrejected : (CanTxMessage.RecoveryControl stopPastEnd).encode_payload =
      .error .OutOfRange := rfl
  rw [hrejected] at hpayload
  cases hpayload

theorem stop_accepted_iff_past_end : ∃ past w w' reports,
    machine.Run Machine.anyStep past w ∧ w.state.recovery_assembler.active = true ∧
      step w (.can_receive (.RecoveryLogData (dumpSevenFragment 4)) 0) = some (w', reports) ∧
      .stop stopPastEnd true ∈ reports ∧
      ∃ m received_at_ms, Action.can_receive (.RecoveryLogData (dumpSevenFragment 4)) 0 =
          .can_receive (Message.received m) received_at_ms ∧
        ((∃ payload, (CanTxMessage.RecoveryControl stopPastEnd).encode_payload = .ok payload) ↔
          reached w.state.recovery_assembler m ≤ 0x00ffffff) := by
  obtain ⟨past, w, w', reports, hrun, hactive, hstep, hstop⟩ := gap_past_end
  exact ⟨past, w, w', reports, hrun, hactive, hstep, hstop,
    stop_accepted_iff hrun hactive hstep hstop⟩

end Comboard.DumpFailure
