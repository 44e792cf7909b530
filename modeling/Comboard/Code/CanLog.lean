import Comboard.Code.CanCommunicationTask

/-!
# The raw log, from the bus to the card

`can_communication_task` and `sd_write_task` with the channel between them.
-/

namespace Comboard

open Lib

structure CanLog where
  can : CanCommunicationTask
  sd : SdWriter

inductive CanLogReport where
  | can (report : CanReport)
  /-- `sd_write_task` has received a record, with this value of `LOGGING_REQUESTED`. -/
  | sd (record : RawCanRecord) (logging_requested : Bool)
  deriving DecidableEq

namespace CanLog

inductive Action where
  /-- A step of the CAN task, or of a task beside it. -/
  | can (action : CanCommunicationTask.Action)
  /-- A turn of `sd_write_task`. -/
  | sd (turn : SdTurn)

def step (w : CanLog) : Action → Option (CanLog × List CanLogReport)
  | .can action =>
    if action = .raw_can_log_receive then none
    else (w.can.step action).map fun (can, reports) => ({ w with can }, reports.map .can)
  | .sd turn =>
    match turn.event with
    | .record record logging_requested =>
      match w.can.raw_can_log_channel.try_receive with
      | some (received, raw_can_log_channel) =>
        if received = record then
          some ({ can := { w.can with raw_can_log_channel }, sd := w.sd.turn turn },
            [.sd record logging_requested])
        else none
      | none => none
    | .tick | .signal => some ({ w with sd := w.sd.turn turn }, [])

def machine : Machine CanLog Action CanLogReport where
  start w := CanCommunicationTask.machine.start w.can ∧ w.sd = .new
  step := step

end CanLog

end Comboard
