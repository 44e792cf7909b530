import Comboard.Code.Gnss

/-!
# The line buffer of `gnss_manager_task`

`LineBuffer` of `Comboard.Code.Gnss` is the text in the buffer. Here is the buffer itself: what stood in
it before stays behind the text, and `none` is an index that is out of range.
-/

namespace Comboard

structure LineArray where
  line_buf : GnssPacket
  line_length : Nat
  discard_line : Bool

namespace LineArray

/-- `line_buf[index] = letter` -/
def write (line_buf : GnssPacket) (index : Nat) (letter : UInt8) : Option GnssPacket :=
  if h : index < 90 then some (line_buf.set index letter) else none

/-- `send_buf[..line_length].copy_from_slice(&line_buf[..line_length])` into zeros -/
def copy (line_buf : GnssPacket) (line_length : Nat) : Option GnssPacket :=
  if line_length ≤ 90 then
    some (.ofFn fun i => if i < line_length then getElem line_buf i i.isLt else 0)
  else none

/-- One turn of the loop over the letters, with what is offered to `GNSS_CHANNEL`. -/
def push (b : LineArray) (letter : UInt8) : Option (LineArray × Option GnssPacket) :=
  if letter = 36 then -- b'$'
    (write b.line_buf 0 letter).map fun line_buf =>
      ({ line_buf, line_length := 1, discard_line := false }, none)
  else if letter = 13 then some (b, none) -- b'\r'
  else if letter = 10 then -- b'\n'
    let b' := { b with line_length := 0, discard_line := false }
    if ¬ b.discard_line ∧ b.line_length > 0 ∧ b.line_buf[0] = 36 then
      (copy b.line_buf b.line_length).map fun send_buf => (b', some send_buf)
    else some (b', none)
  else if b.line_length < 90 then
    (write b.line_buf b.line_length letter).map fun line_buf =>
      ({ b with line_buf, line_length := b.line_length + 1 }, none)
  else some ({ b with discard_line := true }, none)

/-- Letter after letter. -/
def push_all (b : LineArray) : List UInt8 → Option (LineArray × List GnssPacket)
  | [] => some (b, [])
  | letter :: rest =>
    (b.push letter).bind fun (b, offered) =>
      (b.push_all rest).map fun (b, later) => (b, offered.toList ++ later)

end LineArray

end Comboard
