import Comboard.Code.GnssSetting
import Comboard.Lib.Machine

/-!
# `gnss/settings.rs`: the conversation with the receiver

`gnss_setting` with `send_cmd` and `wait_for_ack` byte for byte. The actions say what the UART does and
when the time for an acknowledgement is up.
-/

namespace Comboard

open Lib

inductive GnssSettingError where
  | NoWriteProgress
  | Transmit
  | Receive
  | AckTimeout (ack_class ack_id : UInt8)
  | NegativeAck (ack_class ack_id : UInt8)
  deriving DecidableEq

structure GnssSettingReport where
  acknowledged_commands : UInt8
  final_baud_ack_unverified : Bool
  deriving DecidableEq

/-- Where `gnss_setting` stands with a command. -/
inductive SettingPoint where
  /-- `send_cmd`, with what is left of `data` -/
  | Write (data : List UInt8)
  | Flush
  /-- `wait_for_ack` -/
  | Wait (parser : AckParser)
  | Returned (result : Except GnssSettingError GnssSettingReport)

structure GnssSetting where
  index : Fin INIT_COMMANDS.length
  acknowledged_commands : UInt8
  point : SettingPoint

namespace GnssSetting

inductive Action where
  /-- `write_async` gives `Ok(written)`. -/
  | write (written : Nat)
  | write_error
  | flush (flushed : Bool)
  /-- `read_async` gives these bytes. -/
  | read (bytes : List UInt8)
  | read_error
  | timeout

inductive SettingReport where
  | uart (bytes : List UInt8)
  | read (bytes : List UInt8)
  deriving DecidableEq

def cmd (w : GnssSetting) : List UInt8 := INIT_COMMANDS.get w.index

/-- `cmd[2]`. Every command is longer. -/
def ack_class (w : GnssSetting) : UInt8 := w.cmd.getD 2 0

/-- `cmd[3]` -/
def ack_id (w : GnssSetting) : UInt8 := w.cmd.getD 3 0

def return_ (w : GnssSetting) (result : Except GnssSettingError GnssSettingReport) : GnssSetting :=
  { w with point := .Returned result }

/-- A round of `send_cmd`. A count behind the end is a panic. -/
def write (w : GnssSetting) (data : List UInt8) (written : Nat) :
    Option (GnssSetting × List SettingReport) :=
  if written = 0 then some (w.return_ (.error .NoWriteProgress), [])
  else if written ≤ data.length then
    let rest := data.drop written
    some ({ w with point := if rest.isEmpty then .Flush else .Write rest }, [.uart (data.take written)])
  else none

/-- Behind `flush_async`. The last command is not waited for. -/
def flushed (w : GnssSetting) : GnssSetting :=
  if w.index.val + 1 = INIT_COMMANDS.length then
    w.return_ (.ok
      { acknowledged_commands := w.acknowledged_commands
        final_baud_ack_unverified := true })
  else { w with point := .Wait .new }

/-- `Ok(Ok(AckOutcome::Ack))`, and the head of the loop. -/
def next (w : GnssSetting) : GnssSetting :=
  let acknowledged_commands := if w.acknowledged_commands = 255 then 255 else w.acknowledged_commands + 1
  if h : w.index.val + 1 < INIT_COMMANDS.length then
    { index := ⟨w.index.val + 1, h⟩
      acknowledged_commands
      point := .Write (INIT_COMMANDS.get ⟨w.index.val + 1, h⟩) }
  else
    w.return_ (.ok
      { acknowledged_commands
        final_baud_ack_unverified := true })

/-- What one read makes of the wait. The bytes behind the answer are lost. -/
def answered (w : GnssSetting) (parser : AckParser) (bytes : List UInt8) : GnssSetting :=
  match parser.push_read w.ack_class w.ack_id bytes with
  | (parser, none) => { w with point := .Wait parser }
  | (_, some .Ack) => w.next
  | (_, some .Nak) => w.return_ (.error (.NegativeAck w.ack_class w.ack_id))

def step (w : GnssSetting) (a : Action) : Option (GnssSetting × List SettingReport) :=
  match w.point, a with
  | .Write data, .write written => w.write data written
  | .Write _, .write_error => some (w.return_ (.error .Transmit), [])
  | .Flush, .flush flushed => some (if flushed then w.flushed else w.return_ (.error .Transmit), [])
  -- `bytes` holds 32 bytes.
  | .Wait parser, .read bytes =>
    if bytes.length ≤ 32 then some (w.answered parser bytes, [.read bytes]) else none
  | .Wait _, .read_error => some (w.return_ (.error .Receive), [])
  | .Wait _, .timeout => some (w.return_ (.error (.AckTimeout w.ack_class w.ack_id)), [])
  | _, _ => none

def machine : Machine GnssSetting Action SettingReport where
  start w := w =
    { index := ⟨0, by decide⟩
      acknowledged_commands := 0
      point := .Write (INIT_COMMANDS.get ⟨0, by decide⟩) }
  step := step

end GnssSetting

end Comboard
