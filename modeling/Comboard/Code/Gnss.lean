import Comboard.Code.GnssTime
import Comboard.Code.Periodic
import Comboard.Code.State
import Comboard.Lib.Channel
import Comboard.Lib.Machine

/-!
# `tasks/gnss_task.rs`: the GNSS tasks

The manager runs on one core, the parser and the time response task on the other. A step is a lock
section, a load or store of an atomic or a channel operation, with the local work up to the next one.
`parse_gga` and `encode_position` compute with floating point numbers, so they are parameters.
-/

namespace Comboard

open Lib

def GNSS_STALE_TIMEOUT_MS : Nat := 3000

def GNSS_COORDINATE_UNAVAILABLE : UInt16 := 0x8000
def GNSS_COORDINATE_NO_FIX : UInt16 := 0x8001
def GNSS_COORDINATE_STALE : UInt16 := 0x8002
def GNSS_COORDINATE_INVALID : UInt16 := 0x8004
def GNSS_COORDINATE_RECEIVER_ERROR : UInt16 := 0x8005
def GNSS_HEIGHT_UNAVAILABLE : UInt16 := 496
def GNSS_HEIGHT_NO_FIX : UInt16 := 497
def GNSS_HEIGHT_STALE : UInt16 := 498
def GNSS_HEIGHT_INVALID : UInt16 := 500
def GNSS_HEIGHT_RECEIVER_ERROR : UInt16 := 501

/-! ## `gnss/nmea.rs` and `gnss/telemetry.rs` -/

inductive GgaParseError where
  | InvalidStart | MissingField | InvalidChecksum | ParseError | InvalidTalker | InvalidHemisphere
  | InvalidUnit

inductive FixQuality where
  | Invalid | Gps | Dgps
  | Unknown (value : UInt8)
  deriving DecidableEq

/-- What the parser reads of a GGA sentence. `F` are the floating point numbers. -/
structure GgaData (F : Type) where
  latitude : Option Int32
  longitude : Option Int32
  fix_quality : FixQuality
  altitude : Option F

structure EncodedPosition where
  east : UInt16
  north : UInt16
  height : UInt16

structure GnssFunctions (F : Type) where
  parse_gga : List UInt8 → Except GgaParseError (GgaData F)
  encode_position : Int32 → Int32 → F → EncodedPosition

/-! ## The shared state -/

/-- `GnssTelemetry` with its times. -/
structure GnssReceiver extends GnssTelemetry where
  last_receiver_at_ms : Option Nat
  last_fix_at_ms : Option Nat
  started_at_ms : Option Nat

abbrev GnssPacket := Vector UInt8 90

structure GnssShared where
  telemetry : GnssReceiver
  gnss_channel : Channel GnssPacket 5
  gnss_time_valid : Bool
  gnss_time_unix_seconds : UInt32
  gnss_time_milliseconds : UInt16
  gnss_time_updated_at_ms : UInt32

def GnssReceiver.set_position (t : GnssReceiver) (state : GnssReceiverState)
    (east north height : UInt16) : GnssReceiver :=
  { t with state, east, north, height }

def GnssReceiver.receiver_error (t : GnssReceiver) (state : GnssReceiverState) : GnssReceiver :=
  t.set_position state GNSS_COORDINATE_RECEIVER_ERROR GNSS_COORDINATE_RECEIVER_ERROR
    GNSS_HEIGHT_RECEIVER_ERROR

def GnssReceiver.stale (t : GnssReceiver) : GnssReceiver :=
  t.set_position .Stale GNSS_COORDINATE_STALE GNSS_COORDINATE_STALE GNSS_HEIGHT_STALE

/-- `now_ms` is read under the lock. -/
def set_receiver_state (t : GnssReceiver) (state : GnssReceiverState) (now_ms : Nat) :
    GnssReceiver :=
  let t := { t with state }
  let t := if state = .Starting then { t with started_at_ms := some now_ms } else t
  if state = .ConfigurationFailed ∨ state = .ReceiverError then t.receiver_error state else t

/-! ## `gnss_manager_task` -/

/-- `line` is `line_buf[..line_length]`. -/
structure LineBuffer where
  line : List UInt8
  discard_line : Bool

namespace LineBuffer

def new : LineBuffer where
  line := []
  discard_line := false

/-- One turn of the loop over the letters. A line that ends is given back. -/
def push (b : LineBuffer) (letter : UInt8) : LineBuffer × Option (List UInt8) :=
  if letter = 36 then ({ line := [letter], discard_line := false }, none) -- b'$'
  else if letter = 13 then (b, none) -- b'\r'
  else if letter = 10 then -- b'\n'
    (new, if ¬ b.discard_line ∧ b.line.head? = some 36 then some b.line else none)
  else if b.line.length < 90 then ({ b with line := b.line ++ [letter] }, none)
  else ({ b with discard_line := true }, none)

def send_buf (line : List UInt8) : GnssPacket := .ofFn fun i => line.getD i 0

/-- The letters up to the end of a line, and those behind it. -/
def read (b : LineBuffer) : List UInt8 → LineBuffer × Option (GnssPacket × List UInt8)
  | [] => (b, none)
  | letter :: rest =>
    match b.push letter with
    | (b, some line) => (b, some (send_buf line, rest))
    | (b, none) => b.read rest

end LineBuffer

/-- Where the manager is. -/
inductive ManagerPoint where
  /-- `select(uart.read_async(..), GNSS_CMD_CHANNEL.receive())` -/
  | Select
  /-- `GNSS_TELEMETRY.lock()` for a line -/
  | Detect (now_ms : Nat) (sentence : GnssPacket) (rest : List UInt8)
  /-- `GNSS_CHANNEL.try_send(..)` -/
  | Send (sentence : GnssPacket) (rest : List UInt8)
  /-- `GNSS_TIME_VALID.store(false, ..)` in `TurnOn` -/
  | OnTime
  /-- `set_receiver_state(Starting)` -/
  | Start
  /-- The UART and the receiver are configured. -/
  | Configure
  /-- `GNSS_TIME_VALID.store(false, ..)` after a failure -/
  | FailTime
  /-- `set_receiver_state(ConfigurationFailed)` -/
  | Fail
  /-- `GNSS_TIME_VALID.store(false, ..)` in `TurnOff` -/
  | OffTime
  /-- `GNSS_TELEMETRY.lock()` in `TurnOff` -/
  | Off
  /-- `GNSS_CHANNEL.try_receive()` -/
  | Drain

structure Manager where
  point : ManagerPoint
  lines : LineBuffer
  is_on : Bool

/-- How the configuration ends. -/
inductive Configuration where
  | config_9600_failed | gnss_setting_failed | config_115200_failed | done

/-! ## `parse_gnss_task` -/

def is_sentence (sentence : List UInt8) (suffix : List UInt8) : Bool :=
  match sentence.findIdx? (· = 44) with -- b','
  | some comma => comma ≥ 4 ∧ (sentence.take comma).drop (comma - 3) = suffix
  | none => false

def is_gga (sentence : List UInt8) : Bool := is_sentence sentence [71, 71, 65]

def is_rmc (sentence : List UInt8) : Bool := is_sentence sentence [82, 77, 67]

/-- Where the parser is. -/
inductive ParserPoint (F : Type) where
  /-- `select(GNSS_CHANNEL.receive(), stale_ticker.next())` -/
  | Select
  /-- The first `GNSS_TELEMETRY.lock()` -/
  | Check (sentence : GnssPacket)
  | StoreSeconds (time : GnssDateTime) (now_ms : Nat)
  | StoreMilliseconds (time : GnssDateTime) (now_ms : Nat)
  | StoreUpdated (now_ms : Nat)
  /-- `GNSS_TIME_VALID.store(true, ..)` -/
  | StoreValid
  /-- The second `GNSS_TELEMETRY.lock()` -/
  | Position (now_ms : Nat) (parsed : Except GgaParseError (GgaData F))
  /-- `GNSS_TELEMETRY.lock()` of the ticker -/
  | Tick (now_ms : Nat)
  | LoadValid (now_ms : Nat)
  | LoadUpdated (now_ms : Nat)
  | StoreInvalid

/-- These states are left to the manager. -/
def left_alone (state : GnssReceiverState) : Bool :=
  state = .Off ∨ state = .Starting ∨ state = .ConfigurationFailed

section Parser

variable {F : Type} (f : GnssFunctions F)

/-- What is done with a sentence, behind the first lock. -/
def parse_sentence (sentence : GnssPacket) (now_ms : Nat) : ParserPoint F :=
  if is_rmc sentence.toList then
    match GnssTime.parse_rmc_datetime sentence.toList with
    | .ok time => .StoreSeconds time now_ms
    | .error _ => .Select
  else if is_gga sentence.toList then .Position now_ms (f.parse_gga sentence.toList)
  else .Select

def no_fix (t : GnssReceiver) : GnssReceiver :=
  t.set_position .NoFix GNSS_COORDINATE_NO_FIX GNSS_COORDINATE_NO_FIX GNSS_HEIGHT_NO_FIX

/-- The lock section behind `parse_gga`. -/
def apply_position (t : GnssReceiver) (now_ms : Nat)
    (parsed : Except GgaParseError (GgaData F)) : GnssReceiver :=
  if left_alone t.state then t
  else
    match parsed with
    | .ok data =>
      if data.fix_quality ≠ .Invalid then
        match data.latitude, data.longitude, data.altitude with
        | some latitude, some longitude, some altitude =>
          let encoded := f.encode_position latitude longitude altitude
          { t.set_position .ValidFix encoded.east encoded.north encoded.height with
            last_fix_at_ms := some now_ms }
        | _, _, _ => no_fix t
      else no_fix t
    | .error _ =>
      t.set_position .InvalidSample GNSS_COORDINATE_INVALID GNSS_COORDINATE_INVALID
        GNSS_HEIGHT_INVALID

/-- The time is three seconds ago. -/
def elapsed (now_ms : Nat) (seen : Nat) : Bool := now_ms - seen ≥ GNSS_STALE_TIMEOUT_MS

/-- The lock section of the ticker. -/
def tick_telemetry (t : GnssReceiver) (now_ms : Nat) : GnssReceiver :=
  match t.state with
  | .Starting =>
    if t.started_at_ms.all (elapsed now_ms) then t.receiver_error .ReceiverError else t
  | .ReceiverDetected | .NoFix | .InvalidSample =>
    if t.last_receiver_at_ms.any (elapsed now_ms) then t.stale else t
  | .ValidFix => if t.last_fix_at_ms.any (elapsed now_ms) then t.stale else t
  | _ => t

end Parser

/-! ## `gnss_time_response_task` -/

/-- Where the time response task is. -/
inductive ResponsePoint where
  /-- `ticker.next()` -/
  | Wait
  | LoadValid (request : UInt8 × Nat)
  | LoadUpdated (request : UInt8 × Nat) (now_ms : Nat)
  | LoadSeconds (request : UInt8 × Nat) (age_ms : Nat)
  | LoadMilliseconds (request : UInt8 × Nat) (age_ms : Nat) (base_seconds : UInt32)
  /-- `CAN_TX_CHANNEL.try_send(..)` -/
  | Send (request : UInt8 × Nat) (unix_seconds : UInt32) (milliseconds : UInt16)
  | StoreInvalid

structure Response where
  point : ResponsePoint
  last_response : Option (UInt8 × Nat)

/-! ## Steps -/

structure Gnss (F : Type) where
  shared : GnssShared
  manager : Manager
  parser : ParserPoint F
  response : Response

namespace Gnss

/-- `now_ms` is the clock, where the step reads it. -/
inductive Action where
  /-- The UART has received bytes. -/
  | read (bytes : List UInt8) (now_ms : Nat)
  /-- The manager takes a command. -/
  | receive (command : GnssCommand)
  | configured (configuration : Configuration)
  /-- The manager goes on. -/
  | manager (now_ms : Nat)
  /-- The parser takes a sentence. -/
  | receive_sentence
  | tick (now_ms : Nat)
  /-- The parser goes on. -/
  | parser (now_ms : Nat)
  /-- The response task finds this request in the cache. -/
  | poll (request : Option (UInt8 × Nat))
  /-- The response task goes on. `room` tells if `CAN_TX_CHANNEL` has any. -/
  | response (now_ms : Nat) (room : Bool)

inductive Report where
  /-- `TurnOn` begins. -/
  | turn_on
  /-- `TurnOff` has been handled. -/
  | turned_off
  | answered (request_id : UInt8) (unix_seconds : UInt32) (milliseconds : UInt16)
  deriving DecidableEq

section

variable {F : Type}

def start : Gnss F where
  shared :=
    { telemetry :=
        { toGnssTelemetry := .new
          last_receiver_at_ms := none
          last_fix_at_ms := none
          started_at_ms := none }
      gnss_channel := .empty
      gnss_time_valid := false
      gnss_time_unix_seconds := 0
      gnss_time_milliseconds := 0
      gnss_time_updated_at_ms := 0 }
  manager := { point := .Select, lines := .new, is_on := false }
  parser := .Select
  response := { point := .Wait, last_response := none }

def set_telemetry (w : Gnss F) (telemetry : GnssReceiver) : Gnss F :=
  { w with shared := { w.shared with telemetry } }

def set_valid (w : Gnss F) (gnss_time_valid : Bool) : Gnss F :=
  { w with shared := { w.shared with gnss_time_valid } }

def manager_at (w : Gnss F) (point : ManagerPoint) : Gnss F :=
  { w with manager := { w.manager with point } }

def parser_at (w : Gnss F) (parser : ParserPoint F) : Gnss F := { w with parser }

def response_at (w : Gnss F) (point : ResponsePoint) : Gnss F :=
  { w with response := { w.response with point } }

/-- The loop over the letters goes on. -/
def step_letters (w : Gnss F) (letters : List UInt8) (now_ms : Nat) : Gnss F :=
  let (lines, ended) := w.manager.lines.read letters
  let w := { w with manager := { w.manager with lines } }
  match ended with
  | some (sentence, rest) => w.manager_at (.Detect now_ms sentence rest)
  | none => w.manager_at .Select

def step_command (w : Gnss F) : GnssCommand → Gnss F × List Report
  | .TurnOn => if w.manager.is_on then (w, []) else (w.manager_at .OnTime, [.turn_on])
  | .TurnOff => ({ w with manager := { w.manager with is_on := false, point := .OffTime } }, [])

def step_configured (w : Gnss F) : Configuration → Gnss F
  | .config_9600_failed => w.manager_at .Fail
  | .gnss_setting_failed | .config_115200_failed =>
    { w with manager := { w.manager with lines := .new, point := .FailTime } }
  | .done => { w with manager := { point := .Select, lines := .new, is_on := true } }

def detect (t : GnssReceiver) (now_ms : Nat) : GnssReceiver :=
  { t with
    last_receiver_at_ms := some now_ms
    state := if t.state = .Starting ∨ t.state = .ReceiverError then .ReceiverDetected else t.state }

def step_manager (w : Gnss F) (now_ms : Nat) : Option (Gnss F × List Report) :=
  let t := w.shared.telemetry
  match w.manager.point with
  | .Select | .Configure => none
  | .Detect seen_ms sentence rest =>
    some ((w.set_telemetry (detect t seen_ms)).manager_at (.Send sentence rest), [])
  | .Send sentence rest =>
    let gnss_channel := (w.shared.gnss_channel.offer sentence).1
    some ({ w with shared := { w.shared with gnss_channel } }.step_letters rest now_ms, [])
  | .OnTime => some ((w.set_valid false).manager_at .Start, [])
  | .Start =>
    some ((w.set_telemetry (set_receiver_state t .Starting now_ms)).manager_at .Configure, [])
  | .FailTime => some ((w.set_valid false).manager_at .Fail, [])
  | .Fail =>
    some ((w.set_telemetry (set_receiver_state t .ConfigurationFailed now_ms)).manager_at .Select, [])
  | .OffTime => some ((w.set_valid false).manager_at .Off, [])
  | .Off =>
    let t := t.set_position .Off GNSS_COORDINATE_UNAVAILABLE GNSS_COORDINATE_UNAVAILABLE
      GNSS_HEIGHT_UNAVAILABLE
    some ((w.set_telemetry t).manager_at .Drain, [])
  | .Drain =>
    match w.shared.gnss_channel.try_receive with
    | some (_, gnss_channel) => some ({ w with shared := { w.shared with gnss_channel } }, [])
    | none => some (w.manager_at .Select, [.turned_off])

def step_parse (f : GnssFunctions F) (w : Gnss F) (now_ms : Nat) : Option (Gnss F) :=
  let t := w.shared.telemetry
  match w.parser with
  | .Select => none
  | .Check sentence =>
    some (w.parser_at (if left_alone t.state then .Select else parse_sentence f sentence now_ms))
  | .StoreSeconds time seen_ms =>
    some ({ w with shared := { w.shared with
      gnss_time_unix_seconds := time.unix_seconds } }.parser_at (.StoreMilliseconds time seen_ms))
  | .StoreMilliseconds time seen_ms =>
    some ({ w with shared := { w.shared with
      gnss_time_milliseconds := time.milliseconds } }.parser_at (.StoreUpdated seen_ms))
  | .StoreUpdated seen_ms =>
    some ({ w with shared := { w.shared with
      gnss_time_updated_at_ms := .ofNat seen_ms } }.parser_at .StoreValid)
  | .StoreValid => some ((w.set_valid true).parser_at .Select)
  | .Position seen_ms parsed =>
    some ((w.set_telemetry (apply_position f t seen_ms parsed)).parser_at .Select)
  | .Tick tick_ms => some ((w.set_telemetry (tick_telemetry t tick_ms)).parser_at (.LoadValid tick_ms))
  | .LoadValid tick_ms =>
    some (w.parser_at (if w.shared.gnss_time_valid then .LoadUpdated tick_ms else .Select))
  | .LoadUpdated tick_ms =>
    some (w.parser_at
      (if elapsed tick_ms w.shared.gnss_time_updated_at_ms.toNat then .StoreInvalid else .Select))
  | .StoreInvalid => some ((w.set_valid false).parser_at .Select)

def step_poll (w : Gnss F) (request : Option (UInt8 × Nat)) : Gnss F :=
  match request with
  | none => w
  | some request =>
    if w.response.last_response = some request then w else w.response_at (.LoadValid request)

def step_response (w : Gnss F) (now_ms : Nat) (room : Bool) : Option (Gnss F × List Report) :=
  match w.response.point with
  | .Wait => none
  | .LoadValid request =>
    some (w.response_at (if w.shared.gnss_time_valid then .LoadUpdated request now_ms else .Wait), [])
  | .LoadUpdated request now_ms =>
    let age_ms := now_ms - w.shared.gnss_time_updated_at_ms.toNat
    some (w.response_at
      (if age_ms > GNSS_STALE_TIMEOUT_MS then .StoreInvalid else .LoadSeconds request age_ms), [])
  | .LoadSeconds request age_ms =>
    some (w.response_at (.LoadMilliseconds request age_ms w.shared.gnss_time_unix_seconds), [])
  | .LoadMilliseconds request age_ms base_seconds =>
    let total_milliseconds := w.shared.gnss_time_milliseconds.toNat + age_ms
    let unix_seconds := base_seconds.toNat + total_milliseconds / 1000
    some (w.response_at
      (if unix_seconds < 2 ^ 32 then
        .Send request (.ofNat unix_seconds) (.ofNat (total_milliseconds % 1000))
      else .StoreInvalid), [])
  | .Send request unix_seconds milliseconds =>
    if room then
      some ({ w with response := { point := .Wait, last_response := some request } },
        [.answered request.1 unix_seconds milliseconds])
    else some (w.response_at .Wait, [])
  | .StoreInvalid => some ((w.set_valid false).response_at .Wait, [])

def step (f : GnssFunctions F) (w : Gnss F) : Action → Option (Gnss F × List Report)
  | .read bytes now_ms =>
    match w.manager.point with
    | .Select => some (w.step_letters bytes now_ms, [])
    | _ => none
  | .receive command =>
    match w.manager.point with
    | .Select => some (w.step_command command)
    | _ => none
  | .configured configuration =>
    match w.manager.point with
    | .Configure => some (w.step_configured configuration, [])
    | _ => none
  | .manager now_ms => w.step_manager now_ms
  | .receive_sentence =>
    match w.parser with
    | .Select => w.shared.gnss_channel.try_receive.map fun (sentence, gnss_channel) =>
      ({ w with shared := { w.shared with gnss_channel }, parser := .Check sentence }, [])
    | _ => none
  | .tick now_ms =>
    match w.parser with
    | .Select => some (w.parser_at (.Tick now_ms), [])
    | _ => none
  | .parser now_ms => (w.step_parse f now_ms).map (·, [])
  | .poll request =>
    match w.response.point with
    | .Wait => some (w.step_poll request, [])
    | _ => none
  | .response now_ms room => w.step_response now_ms room

def machine (f : GnssFunctions F) : Machine (Gnss F) Action Report where
  start w := w = start
  step := step f

end

end Gnss

end Comboard
