import Comboard.Assembler
import Comboard.SessionSteps

/-!
# Where a failed dump is resumed

The offset that is reported when a dump fails, against the bytes of the dump that were queued.
-/

namespace Comboard.Resume

open Lib RecoveryAssembler Assembler CommandPath RecoveryPath
open SessionSteps (queue_or_fail_cases session_status_applied)

/-! ## The dump in the past -/

/-- The dump that was started last, and its chunks that were queued. -/
structure Dump where
  offset : UInt32
  queued : List RecoveryChunk
  deriving DecidableEq

def Dump.follow : Option Dump → Report → Option Dump
  | _, .dump_started _ offset => some { offset, queued := [] }
  | some dump, .chunk chunk true => some { dump with queued := dump.queued ++ [chunk] }
  | dump, _ => dump

def lastDump (past : List Report) : Option Dump := past.foldl Dump.follow none

/-- Everything before this offset was queued, and it is the first that was not. -/
def Dump.confirmed (dump : Dump) : Nat := dump.offset.toNat + byteCount dump.queued

theorem lastDump_append (past new : List Report) :
    lastDump (past ++ new) = new.foldl Dump.follow (lastDump past) := by simp [lastDump]

theorem follow_quiet {reports : List Report} (h : Quiet reports) (dump : Option Dump) :
    reports.foldl Dump.follow dump = dump := by
  induction reports generalizing dump with
  | nil => rfl
  | cons r rest ih =>
    have hr : Dump.follow dump r = dump := by
      have := h r (by simp)
      cases r with
      | dump_started | chunk | stop => simp [aboutDump] at this
      | _ => cases dump <;> rfl
    rw [List.foldl_cons, hr, ih fun r hr => h r (by simp [hr])]

/-! ## A failure -/

section Failure

variable {s : RecoveryState} {reason : CommandReason}

/-- The reports about a failure name one offset. -/
def Names (offset : UInt32) (reports : List Report) : Prop :=
  (∀ control queued, .stop control queued ∈ reports → control.offset = offset) ∧
    ∀ packet queued, .command_result packet queued ∈ reports → packet.detail = offset

theorem mem_queue_command_result {s : LoraChannels} {packet packet' : CommandResultPacket}
    {queued : Bool} (h : .command_result packet' queued ∈ (s.queue_command_result packet).2) :
    packet' = packet := by
  unfold LoraChannels.queue_command_result at h
  split at h <;> simp at h <;> exact h.1

theorem fail_inactive (s : RecoveryState) (reason : CommandReason) (stop_mission : Bool) :
    (s.fail_recovery_transfer reason stop_mission).1.recovery_assembler.active = false := by
  unfold RecoveryState.fail_recovery_transfer
  dsimp only
  rw [(queue_some_result_keeps _ _).1]
  unfold RecoveryState.send_stop
  split
  · split <;> rfl
  · rfl

theorem mem_queue_some_result {s : RecoveryState} {result : Option CommandResult}
    {packet : CommandResultPacket} {queued : Bool}
    (h : .command_result packet queued ∈ (s.queue_some_result result).2) :
    ∃ r, result = some r ∧ packet = r.packet := by
  cases result with
  | none => simp [RecoveryState.queue_some_result] at h
  | some r => exact ⟨r, rfl, mem_queue_command_result h⟩

theorem fail_detail {session : RecoverySession} {reason : CommandReason} {detail : UInt32}
    {r : CommandResult} (h : (session.fail reason detail).2 = some r) : r.detail = detail := by
  unfold RecoverySession.fail at h
  split at h
  · simp at h
  · simp only [Option.some.injEq] at h
    rw [← h]

/-- Where `StopLogDump` is sent, it and the result name the position of the assembler. -/
theorem fail_names {control : RecoveryControl} {queued : Bool}
    (h : .stop control queued ∈ (s.fail_recovery_transfer reason true).2) :
    Names s.recovery_assembler.position (s.fail_recovery_transfer reason true).2 := by
  unfold RecoveryState.fail_recovery_transfer at h ⊢
  dsimp only [RecoveryAssembler.abort] at h ⊢
  by_cases hid : s.recovery_assembler.transfer_id ≠ 0
  · rw [if_pos hid]
    dsimp only [RecoveryState.send_stop]
    constructor
    · intro control queued hmem
      rcases List.mem_append.mp hmem with hstop | hresult
      · simp only [if_true, List.mem_singleton, Report.stop.injEq] at hstop
        rw [hstop.1]
        rfl
      · have := (queue_some_result_keeps _ _).2 _ hresult
        simp [aboutDump] at this
    · intro packet queued hmem
      rcases List.mem_append.mp hmem with hstop | hresult
      · simp at hstop
      · obtain ⟨r, hr, rfl⟩ := mem_queue_some_result hresult
        exact fail_detail hr
  · rw [if_neg hid] at h
    have hnone := (queue_some_result_keeps _ _).2 _ h
    simp [aboutDump] at hnone

end Failure

/-! ## A running dump -/

/-- The chunks that were queued reach to the buffer of the assembler. -/
structure Running (dump : Dump) (a : RecoveryAssembler) (held : List UInt8) : Prop where
  holds : Holds a held
  room : held.length < 16
  contiguous : Contiguous dump.offset.toNat dump.queued a.offset.toNat
  below : a.offset.toNat < 2 ^ 24 + 16

/-- The next byte was not queued yet: the buffer is empty, and a fragment in sequence brings
nothing, because the known end is reached. -/
def NothingHeld (a : RecoveryAssembler) : Message → Prop
  | .status _ => a.data_length = 0
  | .fragment fragment => a.data_length = 0 ∧ (fragment.transfer_id = a.transfer_id →
      InSequence a fragment → ended a.total_size a.offset.toNat = true)

/-- What a message does to a running dump. -/
inductive Outcome (dump : Dump) (a : RecoveryAssembler) (m : Message) (s' : RecoveryState)
    (reports : List Report) : Prop where
  | runs (hstop : ∀ control queued, .stop control queued ∉ reports)
      (h : s'.recovery_assembler.active = true → ∃ dump' held,
        reports.foldl Dump.follow (some dump) = some dump' ∧
          Running dump' s'.recovery_assembler held)
  | fails (v : RecoveryState) (reason : CommandReason) (before : List Report) (lost : Nat)
      (hs : s' = (v.fail_recovery_transfer reason true).1)
      (hreports : reports = before ++ (v.fail_recovery_transfer reason true).2)
      (hbefore : before = [] ∨ ∃ chunk, before = [.chunk chunk false])
      (hposition : v.recovery_assembler.position.toNat = a.offset.toNat + lost)
      (hlost : lost = 0 ↔ NothingHeld a m)

section Message

variable {dump : Dump} {a : RecoveryAssembler} {held : List UInt8}

theorem Running.position (h : Running dump a held) :
    a.position.toNat = a.offset.toNat + held.length := by
  have := h.below
  have := h.room
  exact h.holds.position (by omega)

theorem Running.empty (h : Running dump a held) : held.length = 0 ↔ a.data_length = 0 := by
  rw [← h.holds.length, Fin.ext_iff]
  rfl

/-- A full buffer is queued and the dump goes on. -/
theorem Running.queued {a' : RecoveryAssembler} {given rest : List UInt8} {chunk : RecoveryChunk}
    (h : Running dump a held) (hoffset : chunk.offset = a.offset)
    (hlen : chunk.data_length.val = given.length) (hroom : rest.length < 16)
    (hencoded : chunk.offset.toNat ≤ 0x00ffffff) (hrest : Holds a' rest)
    (hnext : a'.offset.toNat = a.offset.toNat + given.length) :
    Running { dump with queued := dump.queued ++ [chunk] } a' rest where
  holds := hrest
  room := hroom
  contiguous := by
    rw [hnext, ← hlen]
    exact h.contiguous.snoc (by rw [hoffset])
  below := by
    have := chunk.data_length.isLt
    rw [hoffset] at hencoded
    omega

/-- The position when a chunk is refused, and what lies between. -/
theorem Packs.position {a a' : RecoveryAssembler} {all : List UInt8} {chunk : RecoveryChunk}
    (h : Packs a a' all (some chunk)) (hfit : a.offset.toNat + all.length < 2 ^ 32) :
    a'.position.toNat = a.offset.toNat + all.length := by
  cases h with
  | ends hlen hend hc hg =>
    rw [hg.holds.position (by rw [hg.offset]; simpa using hfit), hg.offset]; rfl
  | fills hlen hend hc hg =>
    have : (all.take 16).length + (all.drop 16).length = all.length := by
      rw [← List.length_append, List.take_append_drop]
    rw [hg.holds.position (by rw [hg.offset]; omega), hg.offset]
    omega

theorem handle_fragment {s s' : RecoveryState} {fragment : RecoveryLogData}
    {reports : List Report} (h : Running dump s.recovery_assembler held)
    (hactive : s.recovery_assembler.active = true)
    (hhandle : s.apply_recovery_log_data fragment = (s', reports)) :
    Outcome dump s.recovery_assembler (.fragment fragment) s' reports := by
  have hroom := h.room
  have hbelow := h.below
  unfold RecoveryState.apply_recovery_log_data at hhandle
  by_cases hid : fragment.transfer_id = s.recovery_assembler.transfer_id
  · by_cases hseq : InSequence s.recovery_assembler fragment
    · obtain ⟨a', emitted, hpush, hpacks⟩ :=
        push_in_sequence fragment h.holds hroom hactive hid hseq (by omega)
      have htaken := taken_le s.recovery_assembler.total_size
        (s.recovery_assembler.offset.toNat + held.length)
      have hall := held_taken_length held fragment s.recovery_assembler.total_size
        (s.recovery_assembler.offset.toNat + held.length)
      rw [hpush] at hhandle
      cases emitted with
      | none =>
        dsimp only at hhandle
        rw [Prod.mk.injEq] at hhandle
        obtain ⟨rfl, rfl⟩ := hhandle
        cases hpacks with
        | keeps hlen _ hfill =>
          have hoffset : a'.offset = s.recovery_assembler.offset := hfill.offset
          refine .runs (by simp) fun _ => ⟨dump, _, rfl, hfill.holds, hlen, ?_, ?_⟩
          · rw [hoffset]; exact h.contiguous
          · rw [hoffset]; exact hbelow
      | some chunk =>
        have hposition := Packs.position hpacks (by dsimp only; omega)
        dsimp only at hhandle
        rcases queue_or_fail_cases { s with recovery_assembler := a' } chunk with
          ⟨t, hqueue, ⟨-, hkeeps, -⟩, hoffset⟩ | ⟨v, ⟨-, hkeeps, -⟩, hqueue⟩
        · rw [hqueue] at hhandle
          dsimp only at hhandle hkeeps
          rw [Prod.mk.injEq] at hhandle
          obtain ⟨rfl, rfl⟩ := hhandle
          refine .runs (by simp) fun hrest => ?_
          rw [hkeeps] at hrest ⊢
          cases hpacks with
          | ends _ _ _ hgave => rw [hgave.active] at hrest; simp at hrest
          | fills hlen _ hchunk hgave =>
            exact ⟨_, _, rfl, h.queued hchunk.offset hchunk.data_length
              (by rw [List.length_drop]; omega) hoffset hgave.holds hgave.offset⟩
        · rw [hqueue] at hhandle
          dsimp only at hhandle hkeeps
          refine .fails v .InternalError [.chunk chunk false] _ (congrArg Prod.fst hhandle).symm
            (congrArg Prod.snd hhandle).symm (.inr ⟨_, rfl⟩) (hkeeps ▸ hposition) ?_
          rw [hall, Nat.add_eq_zero_iff, h.empty, taken_eq_zero]
          simp only [NothingHeld, hid, hseq, forall_const]
          refine and_congr_right fun hempty => ?_
          rw [h.empty.mpr hempty, Nat.add_zero]
    · rw [push_out_of_sequence hactive hid hseq] at hhandle
      dsimp only at hhandle
      refine .fails { s with recovery_assembler := _ } .ProtocolError [] held.length
        (congrArg Prod.fst hhandle).symm (congrArg Prod.snd hhandle).symm (.inl rfl) ?_ ?_
      · rw [← h.position]
        simp [RecoveryAssembler.position]
      · rw [h.empty]
        simp [NothingHeld, hid, hseq]
  · rw [push_wrong_transfer hactive hid] at hhandle
    dsimp only at hhandle
    refine .fails s .ProtocolError [] held.length
      (congrArg Prod.fst hhandle).symm (congrArg Prod.snd hhandle).symm (.inl rfl) h.position ?_
    rw [h.empty]
    simp [NothingHeld, hid]

theorem apply_session_status_keeps (s : RecoveryState) (status : RecoveryStatus) :
    (s.apply_session_status status).1.recovery_assembler = s.recovery_assembler ∧
      Quiet (s.apply_session_status status).2 := by
  refine ⟨(session_status_applied s status).2, ?_⟩
  unfold RecoveryState.apply_session_status
  exact (queue_some_result_keeps _ _).2

/-- The known end does not show in the buffer. -/
theorem Running.set_total_size (h : Running dump a held) (transfer_id : UInt8)
    (total_size : UInt32) : Running dump (a.set_total_size transfer_id total_size) held := by
  unfold RecoveryAssembler.set_total_size
  split
  · exact ⟨⟨h.holds.data, h.holds.length⟩, h.room, h.contiguous, h.below⟩
  · exact h

theorem set_total_size_offset (a : RecoveryAssembler) (transfer_id : UInt8)
    (total_size : UInt32) : (a.set_total_size transfer_id total_size).offset = a.offset := by
  unfold RecoveryAssembler.set_total_size
  split <;> rfl

theorem no_stop {reports : List Report} (h : Quiet reports) (control : RecoveryControl)
    (queued : Bool) : .stop control queued ∉ reports := by
  intro hmem
  have := h _ hmem
  simp [aboutDump] at this

theorem session_status_outcome {s s' : RecoveryState} {status : RecoveryStatus}
    {reports : List Report} (h : Running dump s.recovery_assembler held)
    (hhandle : s.apply_session_status status = (s', reports)) (m : Message) :
    Outcome dump a m s' reports := by
  obtain ⟨hkeeps, hquiet⟩ := apply_session_status_keeps s status
  rw [hhandle] at hkeeps hquiet
  refine .runs (no_stop hquiet) fun _ => ⟨dump, held, follow_quiet hquiet _, ?_⟩
  rw [hkeeps]
  exact h

theorem handle_status {s s' : RecoveryState} {status : RecoveryStatus} {reports : List Report}
    (h : Running dump s.recovery_assembler held)
    (hhandle : s.apply_recovery_status status = (s', reports)) :
    Outcome dump s.recovery_assembler (.status status) s' reports := by
  have hroom := h.room
  unfold RecoveryState.apply_recovery_status at hhandle
  have hset := h.set_total_size status.transfer_id status.total_size
  have hbelow := hset.below
  have hoffset := set_total_size_offset s.recovery_assembler status.transfer_id status.total_size
  generalize s.recovery_assembler.set_total_size status.transfer_id status.total_size = a at *
  dsimp only at hhandle
  by_cases hcomplete : status.status = .Complete
  · rw [if_pos hcomplete] at hhandle
    unfold RecoveryAssembler.finish at hhandle
    by_cases hfinish : ¬ a.active ∨ a.transfer_id ≠ status.transfer_id
    · rw [if_pos hfinish] at hhandle
      exact session_status_outcome (s := { s with recovery_assembler := a }) hset hhandle _
    · rw [if_neg hfinish] at hhandle
      obtain ⟨hchunk, hgave⟩ := hset.holds.take_chunk (by omega) true
      dsimp only at hhandle
      rcases queue_or_fail_cases { s with recovery_assembler := (a.take_chunk true).1 }
        (a.take_chunk true).2 with ⟨t, hqueue, ⟨-, hkeeps, -⟩, -⟩ | ⟨v, ⟨-, hkeeps, -⟩, hqueue⟩
      · rw [hqueue] at hhandle
        dsimp only at hhandle hkeeps
        obtain ⟨hsession, hquiet⟩ := apply_session_status_keeps t status
        rw [if_pos rfl, Prod.mk.injEq] at hhandle
        obtain ⟨rfl, rfl⟩ := hhandle
        refine .runs ?_ fun hactive => ?_
        · intro control queued hmem
          rcases List.mem_append.mp hmem with hchunk | hlater
          · simp at hchunk
          · exact no_stop hquiet _ _ hlater
        · rw [hsession, hkeeps, hgave.active] at hactive
          simp at hactive
      · rw [hqueue] at hhandle
        dsimp only at hhandle hkeeps
        rw [if_neg (by simp)] at hhandle
        refine .fails v .InternalError [.chunk (a.take_chunk true).2 false] held.length
          (congrArg Prod.fst hhandle).symm (congrArg Prod.snd hhandle).symm (.inr ⟨_, rfl⟩) ?_ h.empty
        rw [hkeeps, hgave.holds.position (by rw [hgave.offset, List.length_nil]; omega), hgave.offset,
          hoffset, List.length_nil, Nat.add_zero]
  · rw [if_neg hcomplete] at hhandle
    exact session_status_outcome (s := { s with recovery_assembler := a }) hset hhandle _

theorem handle_outcome {s s' : RecoveryState} {m : Message} {reports : List Report}
    (h : Running dump s.recovery_assembler held) (hactive : s.recovery_assembler.active = true)
    (hhandle : handle s m = (s', reports)) : Outcome dump s.recovery_assembler m s' reports := by
  cases m with
  | status status => exact handle_status h hhandle
  | fragment fragment => exact handle_fragment h hactive hhandle

/-- An assembler that is not active is started only by a dump command. -/
theorem handle_inactive {s s' : RecoveryState} {m : Message} {reports : List Report}
    (hinactive : s.recovery_assembler.active = false) (hhandle : handle s m = (s', reports)) :
    s'.recovery_assembler.active = false := by
  have hs : s' = (handle s m).1 := (congrArg Prod.fst hhandle).symm
  subst hs
  cases m with
  | fragment fragment =>
    unfold handle RecoveryState.apply_recovery_log_data
    dsimp only
    rw [push_inactive hinactive]
    exact fail_inactive ..
  | status status =>
    have hset : s.recovery_assembler.set_total_size status.transfer_id status.total_size =
        s.recovery_assembler := by
      simp [RecoveryAssembler.set_total_size, hinactive]
    have hfinish : s.recovery_assembler.finish status.transfer_id =
        (s.recovery_assembler, none) := by
      simp [RecoveryAssembler.finish, hinactive]
    unfold handle RecoveryState.apply_recovery_status
    dsimp only
    rw [hset, hfinish, ite_self]
    exact (congrArg RecoveryAssembler.active (apply_session_status_keeps _ status).1).trans hinactive

end Message

/-! ## Runs -/

/-- While the assembler is active, its dump runs. -/
def Inv (past : List Report) (w : CommandPath) : Prop :=
  w.state.recovery_assembler.active = true →
    ∃ dump held, lastDump past = some dump ∧ Running dump w.state.recovery_assembler held

theorem inv_step {past reports : List Report} {w w' : CommandPath} {a : Action}
    (hinv : Inv past w) (h : step w a = some (w', reports)) : Inv (past ++ reports) w' := by
  intro hactive'
  rw [lastDump_append]
  rcases step_handled h with hother | ⟨m, received_at_ms, s, -, hs, hhandle⟩
  · cases hother with
    | kept hkept hquiet =>
      rw [follow_quiet hquiet]
      rw [hkept] at hactive' ⊢
      exact hinv hactive'
    | dropped hdropped hquiet =>
      rw [hdropped] at hactive'
      simp [RecoveryAssembler.abort] at hactive'
    | started hstarted hoffset hreports hquiet =>
      rename_i transfer_id source offset length rest
      refine ⟨{ offset, queued := [] }, [], ?_, ?_⟩
      · rw [hreports, List.foldl_cons, follow_quiet hquiet]
        cases lastDump past <;> rfl
      · rw [hstarted]
        refine ⟨⟨by simp [RecoveryAssembler.start], rfl⟩, by simp, rfl, ?_⟩
        simp only [RecoveryAssembler.start]
        omega
  · cases hactive : w.state.recovery_assembler.active with
    | false =>
      rw [handle_inactive (hs ▸ hactive) hhandle] at hactive'
      contradiction
    | true =>
      obtain ⟨dump, held, hdump, hrunning⟩ := hinv hactive
      rw [hdump]
      rw [← hs] at hrunning hactive
      cases handle_outcome hrunning hactive hhandle with
      | runs _ hrest => exact hrest hactive'
      | fails v reason before lost hfail =>
        rw [hfail, fail_inactive] at hactive'
        contradiction

theorem inv_run {past : List Report} {w : CommandPath} (h : machine.Run Machine.anyStep past w) :
    Inv past w := by
  refine h.invariant ?_ fun _ _ _ _ _ _ hinv _ hstep => inv_step hinv hstep
  rintro w rfl hactive
  simp [CommandPath.start, State.new, RecoveryAssembler.new] at hactive

/-- A refused chunk is no report of the failure. -/
theorem Names.after {before reports : List Report} {offset : UInt32} (h : Names offset reports)
    (hbefore : before = [] ∨ ∃ chunk, before = [.chunk chunk false]) :
    Names offset (before ++ reports) := by
  rcases hbefore with rfl | ⟨chunk, rfl⟩
  · exact h
  · refine ⟨fun control queued hmem => h.1 control queued ?_,
      fun packet queued hmem => h.2 packet queued ?_⟩
    all_goals simpa using hmem

/-- Only a message from the CAN bus stops a dump. -/
theorem stop_received {w w' : CommandPath} {a : Action} {reports : List Report}
    {control : RecoveryControl} {queued : Bool} (hstep : step w a = some (w', reports))
    (hstop : .stop control queued ∈ reports) :
    ∃ m received_at_ms s, a = .can_receive (Message.received m) received_at_ms ∧
      s.recovery_assembler = w.state.recovery_assembler ∧
      handle s m = (w'.state.toRecoveryState, reports) := by
  rcases step_handled hstep with hother | hreceived
  · exfalso
    cases hother with
    | kept _ hquiet => exact no_stop hquiet _ _ hstop
    | dropped _ hquiet => exact no_stop hquiet _ _ hstop
    | started _ _ hreports hquiet =>
      rw [hreports] at hstop
      exact no_stop hquiet control queued (by simpa using hstop)
  · exact hreceived

/-- A running dump fails: what is reported names one offset, and it lies in what was queued exactly
if nothing was held. -/
theorem resume_offset_iff {past reports : List Report} {w w' : CommandPath} {a : Action}
    {control : RecoveryControl} {queued : Bool} (hrun : machine.Run Machine.anyStep past w)
    (hactive : w.state.recovery_assembler.active = true)
    (hstep : step w a = some (w', reports)) (hstop : .stop control queued ∈ reports) :
    ∃ dump m received_at_ms,
      lastDump past = some dump ∧ a = .can_receive (Message.received m) received_at_ms ∧
        Contiguous dump.offset.toNat dump.queued dump.confirmed ∧
        Names control.offset reports ∧
        (control.offset.toNat ≤ dump.confirmed ↔ NothingHeld w.state.recovery_assembler m) := by
  obtain ⟨dump, held, hdump, hrunning⟩ := inv_run hrun hactive
  have hconfirmed : w.state.recovery_assembler.offset.toNat = dump.confirmed :=
    hrunning.contiguous.stop_eq
  obtain ⟨m, received_at_ms, s, ha, hs, hhandle⟩ := stop_received hstep hstop
  refine ⟨dump, m, received_at_ms, hdump, ha, hconfirmed ▸ hrunning.contiguous, ?_⟩
  rw [← hs] at hrunning hactive hconfirmed ⊢
  cases handle_outcome hrunning hactive hhandle with
  | runs hnone _ => exact absurd hstop (hnone control queued)
  | fails v reason before lost hfail hreports hbefore hposition hlost =>
    have hstop' : .stop control queued ∈ (v.fail_recovery_transfer reason true).2 := by
      rw [hreports] at hstop
      rcases hbefore with rfl | ⟨chunk, rfl⟩
      · exact hstop
      · simpa using hstop
    have hnames := fail_names hstop'
    have hoffset := hnames.1 control queued hstop'
    rw [hreports, hoffset]
    refine ⟨hnames.after hbefore, ?_⟩
    rw [← hlost, hposition, hconfirmed]
    omega

/-! ## A refused chunk

A dump of the internal flash from offset 0. Nothing is sent, so 16 chunks fill
`RECOVERY_LORA_CHANNEL`. The fragment that completes the next chunk leaves four bytes behind it.
-/

def fragment (sequence : UInt8) : Action :=
  .can_receive (.RecoveryLogData { transfer_id := 7, sequence, data := Vector.replicate 6 1 }) 0

def dumpToFull : List Action :=
  [.uplink (.ComBoardLocal 7 102 (Vector.replicate 6 0)), .command, .can_take,
    .can_transmitted true] ++ (List.range 45).map fun k => fragment (.ofNat k)

/-- `StopLogDump` behind the refused chunk and what is left in the buffer. -/
def stopBehindRefused : RecoveryControl where
  opcode := .StopLogDump
  source := .InternalFlash
  transfer_id := 7
  offset := 276
  length := 0

theorem refused_chunk : ∃ past w w' reports, machine.Run Machine.anyStep past w ∧
    w.state.recovery_assembler.active = true ∧ step w (fragment 45) = some (w', reports) ∧
    .stop stopBehindRefused true ∈ reports ∧ (lastDump past).map Dump.confirmed = some 256 := by
  have hrun : ∃ past w, machine.Run Machine.anyStep past w ∧
      w.state.recovery_assembler.active = true ∧
        (lastDump past).map Dump.confirmed = some 256 ∧
        ((step w (fragment 45)).any fun r => .stop stopBehindRefused true ∈ r.2) = true :=
    Machine.exists_run
      (fun w past => w.state.recovery_assembler.active = true ∧
        (lastDump past).map Dump.confirmed = some 256 ∧
        ((step w (fragment 45)).any fun r => .stop stopBehindRefused true ∈ r.2) = true)
      dumpToFull rfl (fun _ _ _ => trivial) (by decide +kernel)
  obtain ⟨past, w, hrun, hactive, hdump, hstep⟩ := hrun
  obtain ⟨⟨w', reports⟩, hstep, hstop⟩ := (Option.any_eq_true _ _).mp hstep
  exact ⟨past, w, w', reports, hrun, hactive, hstep, by simpa using hstop, hdump⟩

theorem resume_skips_refused_chunk :
    ¬ ∀ past w a w' reports control queued dump, machine.Run Machine.anyStep past w →
      w.state.recovery_assembler.active = true → step w a = some (w', reports) →
      .stop control queued ∈ reports → lastDump past = some dump →
      control.offset.toNat ≤ dump.confirmed := by
  intro h
  obtain ⟨past, w, w', reports, hrun, hactive, hstep, hstop, hdump⟩ := refused_chunk
  obtain ⟨dump, hlast, hconfirmed⟩ := Option.map_eq_some_iff.mp hdump
  have := h past w _ w' reports _ _ _ hrun hactive hstep hstop hlast
  rw [hconfirmed] at this
  simp [stopBehindRefused] at this

theorem resume_offset_iff_refused_chunk : ∃ past w w' reports,
    machine.Run Machine.anyStep past w ∧ w.state.recovery_assembler.active = true ∧
      step w (fragment 45) = some (w', reports) ∧ .stop stopBehindRefused true ∈ reports ∧
      ∃ dump m received_at_ms,
        lastDump past = some dump ∧
          fragment 45 = .can_receive (Message.received m) received_at_ms ∧
          Contiguous dump.offset.toNat dump.queued dump.confirmed ∧
          Names stopBehindRefused.offset reports ∧
          (stopBehindRefused.offset.toNat ≤ dump.confirmed ↔
            NothingHeld w.state.recovery_assembler m) := by
  obtain ⟨past, w, w', reports, hrun, hactive, hstep, hstop, -⟩ := refused_chunk
  exact ⟨past, w, w', reports, hrun, hactive, hstep, hstop,
    resume_offset_iff hrun hactive hstep hstop⟩

end Comboard.Resume
