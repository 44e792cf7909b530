import Comboard.Code.Protocol
import Comboard.Lib.Word

/-! # `can/recovery.rs`: the recovery session and the log assembler -/

namespace Comboard

open Lib

structure PendingRecovery where
  transaction_id : UInt8
  command : UInt8
  opcode : RecoveryOpcode
  source : RecoverySource
  deriving DecidableEq

structure RecoverySession where
  pending : Option PendingRecovery
  deriving DecidableEq

namespace RecoverySession

def new : RecoverySession where
  pending := none

def start (self : RecoverySession) (pending : PendingRecovery) : RecoverySession × Bool :=
  match self.pending with
  | some _ => (self, false)
  | none => ({ pending := some pending }, true)

def cancel (self : RecoverySession) (transaction_id : UInt8) : RecoverySession :=
  if self.pending.any (·.transaction_id = transaction_id) then { pending := none } else self

def apply_status (self : RecoverySession) (status : RecoveryStatus) :
    RecoverySession × Option CommandResult :=
  match self.pending with
  | none => (self, none)
  | some pending =>
    if status.transfer_id ≠ pending.transaction_id ∨ status.source ≠ pending.source ∨
        status.opcode ≠ pending.opcode then (self, none)
    else
      let (phase, reason, final_result) : CommandPhase × CommandReason × Bool :=
        match status.status with
        | .Dumping => (.Accepted, .None, false)
        | .Ready | .Complete => (.Completed, .None, true)
        | .Aborted =>
          if pending.opcode = .StopLogDump then (.Completed, .None, true)
          else (.Failed, .InterruptedByEmergency, true)
        | .Busy => (.Rejected, .Busy, true)
        | .InvalidState => (.Rejected, .InvalidState, true)
        | .InvalidArgument => (.Rejected, .InvalidArgument, true)
        | .SourceUnavailable => (.Failed, .DeviceUnavailable, true)
        | .IoError => (.Failed, .PersistenceError, true)
        | .InternalError => (.Failed, .InternalError, true)
      (if final_result then { pending := none } else self,
        some { transaction_id := pending.transaction_id
               command := pending.command
               phase
               reason
               detail := status.total_size })

def active_source (self : RecoverySession) : Option RecoverySource := self.pending.map (·.source)

def fail (self : RecoverySession) (reason : CommandReason) (detail : UInt32) :
    RecoverySession × Option CommandResult :=
  match self.pending with
  | none => (self, none)
  | some pending =>
    ({ pending := none },
      some { transaction_id := pending.transaction_id
             command := pending.command
             phase := .Failed
             reason
             detail })

def fail_matching (self : RecoverySession) (transaction_id : UInt8) (reason : CommandReason)
    (detail : UInt32) : RecoverySession × Option CommandResult :=
  if self.pending.all (·.transaction_id ≠ transaction_id) then (self, none)
  else self.fail reason detail

def interrupt_with_stop (self : RecoverySession) (pending : PendingRecovery) :
    RecoverySession × Option CommandResult :=
  ({ pending := some pending }, (self.fail .InterruptedByEmergency 0).2)

end RecoverySession

/-! ## The assembler -/

instance instNeZeroDataLength : NeZero 17 := ⟨by decide⟩

structure RecoveryChunk where
  transfer_id : UInt8
  source : RecoverySource
  offset : UInt32
  data_length : Fin 17
  data : Vector UInt8 16
  end_of_file : Bool
  deriving DecidableEq

structure RecoveryResume where
  transfer_id : UInt8
  source : RecoverySource
  offset : UInt32
  deriving DecidableEq

inductive RecoveryAssemblyError where
  | NotStarted | WrongTransfer | SequenceGap
  deriving DecidableEq

structure RecoveryAssembler where
  active : Bool
  transfer_id : UInt8
  source : RecoverySource
  offset : UInt32
  total_size : Option UInt32
  expected_sequence : Option UInt8
  data : Vector UInt8 16
  /-- How much of `data` is filled, so never more than its length. -/
  data_length : Fin 17
  deriving DecidableEq

namespace RecoveryAssembler

def new : RecoveryAssembler where
  active := false
  transfer_id := 0
  source := .InternalFlash
  offset := 0
  total_size := none
  expected_sequence := none
  data := Vector.replicate 16 0
  data_length := 0

/-- The old value is overwritten whole. -/
def start (transfer_id : UInt8) (source : RecoverySource) (offset requested_length : UInt32) :
    RecoveryAssembler where
  active := true
  transfer_id
  source
  offset
  total_size :=
    if requested_length ≠ 0 then some (saturating_add offset requested_length) else none
  expected_sequence := none
  data := Vector.replicate 16 0
  data_length := 0

/-- `self.offset.saturating_add(u32::from(self.data_length))`, which the source writes out. -/
def position (self : RecoveryAssembler) : UInt32 :=
  saturating_add self.offset (.ofNat self.data_length)

def set_total_size (self : RecoveryAssembler) (transfer_id : UInt8) (total_size : UInt32) :
    RecoveryAssembler :=
  if self.active ∧ self.transfer_id = transfer_id ∧ total_size ≠ 0 then
    { self with
      total_size := some (match self.total_size with
        | none => total_size
        | some last => min last total_size) }
  else self

def reached_end (self : RecoveryAssembler) : Bool :=
  self.total_size.any fun total_size => self.position ≥ total_size

def take_chunk (self : RecoveryAssembler) (end_of_file : Bool) :
    RecoveryAssembler × RecoveryChunk :=
  ({ self with
      offset := self.position
      data := Vector.replicate 16 0
      data_length := 0
      active := if end_of_file then false else self.active },
    { transfer_id := self.transfer_id
      source := self.source
      offset := self.offset
      data_length := self.data_length
      data := self.data
      end_of_file })

def finish (self : RecoveryAssembler) (transfer_id : UInt8) :
    RecoveryAssembler × Option RecoveryChunk :=
  if ¬ self.active ∨ self.transfer_id ≠ transfer_id then (self, none)
  else
    let (self, chunk) := self.take_chunk true
    (self, some chunk)

def stop (self : RecoveryAssembler) : RecoveryAssembler × Option RecoveryChunk :=
  if ¬ self.active then (self, none) else self.finish self.transfer_id

def abort (self : RecoveryAssembler) : RecoveryAssembler × Option RecoveryResume :=
  ({ self with active := false, data := Vector.replicate 16 0, data_length := 0 },
    if self.transfer_id ≠ 0 then
      some { transfer_id := self.transfer_id, source := self.source, offset := self.position }
    else none)

/-! ## `push` -/

/-- `data[destination..destination + copied].copy_from_slice(&fragment[source..source + copied])` -/
def copy_from_slice (data : Vector UInt8 16) (destination copied : Nat)
    (fragment : Vector UInt8 6) (source : Nat) : Vector UInt8 16 :=
  .ofFn fun i =>
    if destination ≤ i.val ∧ i.val < destination + copied then
      fragment.getD (source + (i.val - destination)) 0
    else data[i]

/-- Copies `copied` bytes of the fragment behind what `data` holds. -/
def copy (self : RecoveryAssembler) (fragment : RecoveryLogData) (source copied : Nat)
    (h : self.data_length.val + copied ≤ 16) : RecoveryAssembler :=
  { self with
    data := copy_from_slice self.data self.data_length copied fragment.data source
    data_length := ⟨self.data_length.val + copied, by omega⟩ }

/-- The variables of the loop. -/
structure Copy where
  self : RecoveryAssembler
  source : Nat
  emitted : Option RecoveryChunk

/-- The body of the loop. -/
def copy_turn (fragment : RecoveryLogData) (fragment_length : Nat) (c : Copy) : Copy :=
  let copied := min (16 - c.self.data_length.val) (fragment_length - c.source)
  let self := c.self.copy fragment c.source copied (by omega)
  let source := c.source + copied
  if self.data_length = 16 then
    let (self, chunk) := self.take_chunk (self.reached_end && source = fragment_length)
    { self, source, emitted := some chunk }
  else { self, source, emitted := c.emitted }

/-- `while source < fragment_length`, for at most `fuel` turns. -/
def copy_loop (fragment : RecoveryLogData) (fragment_length : Nat) : Nat → Copy → Copy
  | 0, c => c
  | fuel + 1, c =>
    if c.source < fragment_length then
      copy_loop fragment fragment_length fuel (copy_turn fragment fragment_length c)
    else c

def fragment_length (self : RecoveryAssembler) : Nat :=
  match self.total_size with
  | none => 6
  | some total_size => min (saturating_sub total_size self.position).toNat 6

/-- Every turn of the loop copies at least one byte, so `fragment_length` turns are enough. -/
def push (self : RecoveryAssembler) (fragment : RecoveryLogData) :
    RecoveryAssembler × Except RecoveryAssemblyError (Option RecoveryChunk) :=
  if ¬ self.active then (self, .error .NotStarted)
  else if fragment.transfer_id ≠ self.transfer_id then (self, .error .WrongTransfer)
  else if self.expected_sequence.any (fragment.sequence ≠ ·) then
    ({ self with
        offset := self.position
        data := Vector.replicate 16 0
        data_length := 0
        active := false }, .error .SequenceGap)
  else
    let self := { self with expected_sequence := some (fragment.sequence + 1) }
    let fragment_length := self.fragment_length
    let c := copy_loop fragment fragment_length fragment_length
      { self, source := 0, emitted := none }
    if c.emitted = none ∧ c.self.reached_end then
      let (self, chunk) := c.self.take_chunk true
      (self, .ok (some chunk))
    else (c.self, .ok c.emitted)

end RecoveryAssembler

end Comboard
