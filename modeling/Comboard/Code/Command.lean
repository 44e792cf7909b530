import Comboard.Code.Protocol
import Comboard.Lib.Table

/-! # `can/command.rs`: the transaction tracker -/

namespace Comboard

open Lib

abbrev MAX_PENDING_TRANSACTIONS : Nat := 16
abbrev RESULT_CACHE_CAPACITY : Nat := 16

inductive RegisterResult where
  | Forward
  | DuplicatePending
  | Replay (result : CommandResult)
  | ProtocolError
  | Busy
  deriving DecidableEq

structure PendingEntry where
  request : GenericCommandRequest
  deriving DecidableEq

structure CachedEntry where
  request : GenericCommandRequest
  result : CommandResult
  deriving DecidableEq

structure TransactionTracker where
  pending : Table PendingEntry MAX_PENDING_TRANSACTIONS
  results : Table CachedEntry RESULT_CACHE_CAPACITY
  /-- Always an index of `results`, so a write there needs no bounds check. -/
  next_result : Fin RESULT_CACHE_CAPACITY
  deriving DecidableEq

namespace TransactionTracker

theorem next_result_lt (t : TransactionTracker) : t.next_result.val < RESULT_CACHE_CAPACITY :=
  t.next_result.isLt

def new : TransactionTracker where
  pending := Table.empty
  results := Table.empty
  next_result := 0

def register (self : TransactionTracker) (request : GenericCommandRequest) :
    TransactionTracker × RegisterResult :=
  match self.pending.entries.find? fun entry =>
      entry.request.transaction_id = request.transaction_id with
  | some entry =>
    if entry.request = request then
      match self.results.entries.find? fun cached => cached.request = request with
      | none => (self, .DuplicatePending)
      | some cached => (self, .Replay cached.result)
    else (self, .ProtocolError)
  | none =>
    match self.results.entries.find? fun entry =>
        entry.request.transaction_id = request.transaction_id with
    | some entry => (self, if entry.request = request then .Replay entry.result else .ProtocolError)
    | none =>
      match self.pending.vacant with
      | none => (self, .Busy)
      | some slot =>
        ({ self with pending := self.pending.set slot (some ⟨request⟩) slot.isLt }, .Forward)

/-- `locate` gives the entry along with its index, so the `unwrap` of the source is not needed. -/
def apply_result (self : TransactionTracker) (result : CommandResult) : TransactionTracker × Bool :=
  match self.pending.locate fun entry =>
      entry.request.transaction_id = result.transaction_id ∧
        entry.request.command = result.command with
  | none => (self, false)
  | some (index, ⟨request⟩) =>
    let stored : TransactionTracker :=
      match self.results.locate fun entry =>
          entry.request.transaction_id = request.transaction_id ∧
            entry.request.command = request.command with
      | some (slot, entry) =>
        { self with results := self.results.set slot (some { entry with result }) slot.isLt }
      | none =>
        { self with
          results := self.results.set self.next_result (some ⟨request, result⟩) self.next_result_lt
          next_result := Table.ringNext self.next_result }
    (if result.phase.is_final then
        { stored with pending := stored.pending.set index none index.isLt }
      else stored, true)

def pending_count (self : TransactionTracker) : Nat := self.pending.entries.length

end TransactionTracker

end Comboard
