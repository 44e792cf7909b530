import Comboard.Code.CanCodec
import Comboard.GnssTimeOff
import Comboard.RmcGrammar

/-!
# The time responses

The log of a run tells which RMC time was stored when, when the response task read the clock and what it
answered. The parser and the response task share a core, so neither goes on inside the other.
-/

namespace Comboard.TimeResponse

open Lib Gnss GnssState

variable {F : Type} {f : GnssFunctions F}

/-! ## The log -/

inductive Event where
  /-- The parser begins to store a time that it accepted at `at_ms`. -/
  | accepted (time : GnssDateTime) (at_ms : Nat)
  /-- The response task finds this request. -/
  | polled (request : UInt8 × Nat)
  /-- It reads the clock. -/
  | asked (now_ms : Nat)
  | answered (request : UInt8 × Nat) (unix_seconds : UInt32) (milliseconds : UInt16)
  deriving DecidableEq

def look (w : Gnss F) : Gnss.Action → List Event
  | .parser _ =>
    match w.parser with
    | .StoreSeconds time seen_ms => [.accepted time seen_ms]
    | _ => []
  | .poll (some request) => [.polled request]
  | .response now_ms room =>
    match w.response.point with
    | .LoadValid _ => [.asked now_ms]
    | .Send request unix_seconds milliseconds =>
      if room then [.answered request unix_seconds milliseconds] else []
    | _ => []
  | _ => []

def logged (f : GnssFunctions F) : Machine (Gnss F) Gnss.Action Event := (machine f).observed look

def lastAccepted (past : List Event) : Option (GnssDateTime × Nat) :=
  past.reverse.findSome? fun
    | .accepted time at_ms => some (time, at_ms)
    | _ => none

def lastAsked (past : List Event) : Option Nat :=
  past.reverse.findSome? fun
    | .asked now_ms => some now_ms
    | _ => none

@[simp]
theorem lastAccepted_accepted (past : List Event) (time : GnssDateTime) (at_ms : Nat) :
    lastAccepted (past ++ [.accepted time at_ms]) = some (time, at_ms) := by
  simp [lastAccepted]

@[simp]
theorem lastAccepted_polled (past : List Event) (request : UInt8 × Nat) :
    lastAccepted (past ++ [.polled request]) = lastAccepted past := by
  simp [lastAccepted]

@[simp]
theorem lastAccepted_asked (past : List Event) (now_ms : Nat) :
    lastAccepted (past ++ [.asked now_ms]) = lastAccepted past := by
  simp [lastAccepted]

@[simp]
theorem lastAccepted_answered (past : List Event) (request : UInt8 × Nat) (unix_seconds : UInt32)
    (milliseconds : UInt16) :
    lastAccepted (past ++ [.answered request unix_seconds milliseconds]) = lastAccepted past := by
  simp [lastAccepted]

@[simp]
theorem lastAsked_asked (past : List Event) (now_ms : Nat) :
    lastAsked (past ++ [.asked now_ms]) = some now_ms := by
  simp [lastAsked]

/-! ## One core -/

def resting : ResponsePoint → Bool
  | .Wait => true
  | _ => false

/-- The parser stands at an `await`. -/
def awaiting : ParserPoint F → Bool
  | .Select | .Check _ | .Position _ _ | .Tick _ => true
  | _ => false

/-- A task of the second core goes on only while the other one awaits. -/
def OneCore (w : Gnss F) : Gnss.Action → Prop
  | .receive_sentence | .tick _ | .parser _ => resting w.response.point = true
  | .poll _ | .response _ _ => awaiting w.parser = true
  | _ => True

instance instDecidableOneCore (w : Gnss F) : (a : Gnss.Action) → Decidable (OneCore w a)
  | .receive_sentence | .tick _ | .parser _ =>
    inferInstanceAs (Decidable (resting w.response.point = true))
  | .poll _ | .response _ _ => inferInstanceAs (Decidable (awaiting w.parser = true))
  | .read _ _ | .receive _ | .configured _ | .manager _ => .isTrue trivial

/-! ## What is stored and what is read -/

/-- The three stores of an accepted time are done. -/
structure Stored (past : List Event) (s : GnssShared) (time : GnssDateTime) (at_ms : Nat) : Prop where
  accepted : lastAccepted past = some (time, at_ms)
  seconds : s.gnss_time_unix_seconds = time.unix_seconds
  milliseconds : s.gnss_time_milliseconds = time.milliseconds
  updated : s.gnss_time_updated_at_ms = .ofNat at_ms

/-- The age that the response task computes: the time of the store was cut to 32 bits. -/
structure Aged (past : List Event) (at_ms age_ms : Nat) : Prop where
  asked : ∃ now_ms, lastAsked past = some now_ms ∧ age_ms = now_ms - at_ms % 2 ^ 32
  fresh : age_ms ≤ GNSS_STALE_TIMEOUT_MS

structure Answers (time : GnssDateTime) (age_ms : Nat) (unix_seconds : UInt32)
    (milliseconds : UInt16) : Prop where
  total : unix_seconds.toNat * 1000 + milliseconds.toNat =
    time.unix_seconds.toNat * 1000 + time.milliseconds.toNat + age_ms
  milliseconds_le : milliseconds.toNat ≤ 999

def ParserTraced (past : List Event) (s : GnssShared) : ParserPoint F → Prop
  | .StoreSeconds _ _ => True
  | .StoreMilliseconds time at_ms =>
    lastAccepted past = some (time, at_ms) ∧ s.gnss_time_unix_seconds = time.unix_seconds
  | .StoreUpdated at_ms => ∃ time, lastAccepted past = some (time, at_ms) ∧
    s.gnss_time_unix_seconds = time.unix_seconds ∧ s.gnss_time_milliseconds = time.milliseconds
  | .StoreValid => ∃ time at_ms, Stored past s time at_ms
  | _ => s.gnss_time_valid = true → ∃ time at_ms, Stored past s time at_ms

def ResponseTraced (past : List Event) (s : GnssShared) : ResponsePoint → Prop
  | .Wait | .LoadValid _ | .StoreInvalid => True
  | .LoadUpdated _ now_ms => lastAsked past = some now_ms ∧ ∃ time at_ms, Stored past s time at_ms
  | .LoadSeconds _ age_ms => ∃ time at_ms, Stored past s time at_ms ∧ Aged past at_ms age_ms
  | .LoadMilliseconds _ age_ms base_seconds => ∃ time at_ms, Stored past s time at_ms ∧
    Aged past at_ms age_ms ∧ base_seconds = time.unix_seconds
  | .Send _ unix_seconds milliseconds => ∃ time at_ms age_ms,
    lastAccepted past = some (time, at_ms) ∧ Aged past at_ms age_ms ∧
      Answers time age_ms unix_seconds milliseconds

structure Traced (past : List Event) (w : Gnss F) : Prop where
  apart : resting w.response.point = true ∨ awaiting w.parser = true
  parser : ParserTraced past w.shared w.parser
  response : ResponseTraced past w.shared w.response.point

/-- The time is left as it is. The flag may fall. -/
structure SameTime (s s' : GnssShared) : Prop where
  seconds : s'.gnss_time_unix_seconds = s.gnss_time_unix_seconds
  milliseconds : s'.gnss_time_milliseconds = s.gnss_time_milliseconds
  updated : s'.gnss_time_updated_at_ms = s.gnss_time_updated_at_ms
  valid : s'.gnss_time_valid = true → s.gnss_time_valid = true

theorem SameTime.refl (s : GnssShared) : SameTime s s := ⟨rfl, rfl, rfl, id⟩

variable {past past' : List Event} {s s' : GnssShared}

theorem Stored.same {time : GnssDateTime} {at_ms : Nat} (h : Stored past s time at_ms)
    (hsame : SameTime s s') (hpast : lastAccepted past' = lastAccepted past) :
    Stored past' s' time at_ms := by
  obtain ⟨haccepted, hseconds, hmilliseconds, hupdated⟩ := h
  exact ⟨hpast.trans haccepted, hsame.seconds.trans hseconds,
    hsame.milliseconds.trans hmilliseconds, hsame.updated.trans hupdated⟩

theorem ParserTraced.same {point : ParserPoint F} (h : ParserTraced past s point)
    (hsame : SameTime s s') (hpast : lastAccepted past' = lastAccepted past) :
    ParserTraced past' s' point := by
  unfold ParserTraced at h ⊢
  rw [hpast, hsame.seconds, hsame.milliseconds]
  split at h
  · trivial
  · exact h
  · exact h
  · obtain ⟨time, at_ms, h⟩ := h
    exact ⟨time, at_ms, h.same hsame hpast⟩
  · intro hvalid
    obtain ⟨time, at_ms, h⟩ := h (hsame.valid hvalid)
    exact ⟨time, at_ms, h.same hsame hpast⟩

theorem ResponseTraced.same {point : ResponsePoint} (h : ResponseTraced past s point)
    (hsame : SameTime s s') : ResponseTraced past s' point := by
  unfold ResponseTraced at h ⊢
  split at h
  · trivial
  · trivial
  · trivial
  · obtain ⟨hasked, time, at_ms, h⟩ := h
    exact ⟨hasked, time, at_ms, h.same hsame rfl⟩
  · obtain ⟨time, at_ms, h, haged⟩ := h
    exact ⟨time, at_ms, h.same hsame rfl, haged⟩
  · obtain ⟨time, at_ms, h, haged, hbase⟩ := h
    exact ⟨time, at_ms, h.same hsame rfl, haged, hbase⟩
  · exact h

/-! ## The steps of the other core -/

/-- What the manager leaves as it is. -/
structure Beside (w w' : Gnss F) : Prop where
  parser : w'.parser = w.parser
  response : w'.response = w.response
  time : SameTime w.shared w'.shared

theorem beside_letters (w : Gnss F) (letters : List UInt8) (now_ms : Nat) :
    Beside w (w.step_letters letters now_ms) := by
  unfold step_letters
  dsimp only
  split <;> exact ⟨rfl, rfl, .refl _⟩

theorem beside_manager {w w' : Gnss F} {now_ms : Nat} {reports : List Gnss.Report}
    (h : ManagerStep w now_ms w' reports) : Beside w w' := by
  cases h with
  | @send _ rest gnss_channel =>
    obtain ⟨hparser, hresponse, htime⟩ :=
      beside_letters { w with shared := { w.shared with gnss_channel } } rest now_ms
    exact ⟨hparser, hresponse, htime.seconds, htime.milliseconds, htime.updated, htime.valid⟩
  | on_time | fail_time | off_time => exact ⟨rfl, rfl, rfl, rfl, rfl, nofun⟩
  | detect | start | fail | off | drain | drained => exact ⟨rfl, rfl, rfl, rfl, rfl, id⟩

theorem beside_command (w : Gnss F) (command : GnssCommand) : Beside w (w.step_command command).1 := by
  unfold step_command
  split
  · split <;> exact ⟨rfl, rfl, .refl _⟩
  · exact ⟨rfl, rfl, .refl _⟩

theorem beside_configured (w : Gnss F) (configuration : Configuration) :
    Beside w (w.step_configured configuration) := by
  unfold step_configured
  split <;> exact ⟨rfl, rfl, .refl _⟩

def managerActs : Gnss.Action → Bool
  | .read _ _ | .receive _ | .configured _ | .manager _ => true
  | _ => false

theorem beside_step {w w' : Gnss F} {a : Gnss.Action} {reports : List Gnss.Report}
    (hacts : managerActs a = true) (h : (machine f).step w a = some (w', reports)) :
    Beside w w' ∧ look w a = [] := by
  cases stepped h with
  | @read bytes now_ms => exact ⟨beside_letters w bytes now_ms, rfl⟩
  | @receive command => exact ⟨beside_command w command, rfl⟩
  | @configured configuration => exact ⟨beside_configured w configuration, rfl⟩
  | manager hmanager => exact ⟨beside_manager hmanager, rfl⟩
  | _ => cases hacts

theorem Traced.beside {w w' : Gnss F} (h : Traced past w) (hbeside : Beside w w') :
    Traced past w' := by
  obtain ⟨hparser, hresponse, htime⟩ := hbeside
  refine ⟨?_, ?_, ?_⟩
  · rw [hparser, hresponse]
    exact h.apart
  · rw [hparser]
    exact h.parser.same htime rfl
  · rw [hresponse]
    exact h.response.same htime

/-! ## The steps of the second core -/

/-- What a step of the parser does to the shared state, where it goes and what is logged. -/
inductive Parsed (f : GnssFunctions F) (s : GnssShared) (now_ms : Nat) :
    ParserPoint F → GnssShared → ParserPoint F → List Event → Prop where
  | check (sentence : GnssPacket) :
      Parsed f s now_ms (.Check sentence) s
        (if left_alone s.telemetry.state then .Select else parse_sentence f sentence now_ms) []
  | seconds (time : GnssDateTime) (seen_ms : Nat) :
      Parsed f s now_ms (.StoreSeconds time seen_ms)
        { s with gnss_time_unix_seconds := time.unix_seconds } (.StoreMilliseconds time seen_ms)
          [.accepted time seen_ms]
  | milliseconds (time : GnssDateTime) (seen_ms : Nat) :
      Parsed f s now_ms (.StoreMilliseconds time seen_ms)
        { s with gnss_time_milliseconds := time.milliseconds } (.StoreUpdated seen_ms) []
  | updated (seen_ms : Nat) :
      Parsed f s now_ms (.StoreUpdated seen_ms)
        { s with gnss_time_updated_at_ms := .ofNat seen_ms } .StoreValid []
  | valid : Parsed f s now_ms .StoreValid { s with gnss_time_valid := true } .Select []
  | position (seen_ms : Nat) (parsed : Except GgaParseError (GgaData F)) :
      Parsed f s now_ms (.Position seen_ms parsed)
        { s with telemetry := apply_position f s.telemetry seen_ms parsed } .Select []
  | tick (tick_ms : Nat) :
      Parsed f s now_ms (.Tick tick_ms)
        { s with telemetry := tick_telemetry s.telemetry tick_ms } (.LoadValid tick_ms) []
  | load_valid (tick_ms : Nat) :
      Parsed f s now_ms (.LoadValid tick_ms) s
        (if s.gnss_time_valid then .LoadUpdated tick_ms else .Select) []
  | load_updated (tick_ms : Nat) :
      Parsed f s now_ms (.LoadUpdated tick_ms) s
        (if elapsed tick_ms s.gnss_time_updated_at_ms.toNat then .StoreInvalid else .Select) []
  | invalid : Parsed f s now_ms .StoreInvalid { s with gnss_time_valid := false } .Select []

theorem parsed_of_step {w w' : Gnss F} {now_ms : Nat} (h : step_parse f w now_ms = some w') :
    ∃ s' point', w' = { w with shared := s', parser := point' } ∧
      Parsed f w.shared now_ms w.parser s' point' (look w (.parser now_ms)) := by
  unfold step_parse at h
  unfold look
  cases hpoint : w.parser <;> simp only [hpoint] at h ⊢
  case Select => cases h
  all_goals
    obtain rfl := Option.some.inj h
    refine ⟨_, _, rfl, ?_⟩
    constructor

/-- What a step of the response task does. -/
inductive Responded (s : GnssShared) (now_ms : Nat) (room : Bool) (last : Option (UInt8 × Nat)) :
    ResponsePoint → GnssShared → Response → List Event → Prop where
  | load_valid (request : UInt8 × Nat) :
      Responded s now_ms room last (.LoadValid request) s
        { point := if s.gnss_time_valid then .LoadUpdated request now_ms else .Wait
          last_response := last } [.asked now_ms]
  | load_updated (request : UInt8 × Nat) (asked_ms : Nat) :
      Responded s now_ms room last (.LoadUpdated request asked_ms) s
        { point :=
            if asked_ms - s.gnss_time_updated_at_ms.toNat > GNSS_STALE_TIMEOUT_MS then .StoreInvalid
            else .LoadSeconds request (asked_ms - s.gnss_time_updated_at_ms.toNat)
          last_response := last } []
  | load_seconds (request : UInt8 × Nat) (age_ms : Nat) :
      Responded s now_ms room last (.LoadSeconds request age_ms) s
        { point := .LoadMilliseconds request age_ms s.gnss_time_unix_seconds
          last_response := last } []
  | load_milliseconds (request : UInt8 × Nat) (age_ms : Nat) (base_seconds : UInt32) :
      Responded s now_ms room last (.LoadMilliseconds request age_ms base_seconds) s
        { point :=
            if base_seconds.toNat + (s.gnss_time_milliseconds.toNat + age_ms) / 1000 < 2 ^ 32 then
              .Send request
                (.ofNat (base_seconds.toNat + (s.gnss_time_milliseconds.toNat + age_ms) / 1000))
                (.ofNat ((s.gnss_time_milliseconds.toNat + age_ms) % 1000))
            else .StoreInvalid
          last_response := last } []
  | sent (request : UInt8 × Nat) (unix_seconds : UInt32) (milliseconds : UInt16)
      (hroom : room = true) :
      Responded s now_ms room last (.Send request unix_seconds milliseconds) s
        { point := .Wait, last_response := some request }
          [.answered request unix_seconds milliseconds]
  | full (request : UInt8 × Nat) (unix_seconds : UInt32) (milliseconds : UInt16)
      (hroom : room = false) :
      Responded s now_ms room last (.Send request unix_seconds milliseconds) s
        { point := .Wait, last_response := last } []
  | invalid :
      Responded s now_ms room last .StoreInvalid { s with gnss_time_valid := false }
        { point := .Wait, last_response := last } []

theorem responded_of_step {w w' : Gnss F} {now_ms : Nat} {room : Bool} {reports : List Gnss.Report}
    (h : w.step_response now_ms room = some (w', reports)) :
    ∃ s' response', w' = { w with shared := s', response := response' } ∧
      Responded w.shared now_ms room w.response.last_response w.response.point s' response'
        (look w (.response now_ms room)) := by
  unfold step_response at h
  unfold look
  cases hpoint : w.response.point <;> simp only [hpoint] at h ⊢
  case Wait => cases h
  case Send request unix_seconds milliseconds =>
    cases room
    · obtain ⟨rfl, -⟩ := Prod.mk.inj (Option.some.inj h)
      exact ⟨_, _, rfl, .full request unix_seconds milliseconds rfl⟩
    · obtain ⟨rfl, -⟩ := Prod.mk.inj (Option.some.inj h)
      exact ⟨_, _, rfl, .sent request unix_seconds milliseconds rfl⟩
  all_goals
    obtain ⟨rfl, -⟩ := Prod.mk.inj (Option.some.inj h)
    refine ⟨_, _, rfl, ?_⟩
    constructor

/-! ## Every step -/

theorem point_of_resting {point : ResponsePoint} (h : resting point = true) : point = .Wait := by
  cases point <;> simp_all [resting]

/-- At an `await` the flag tells that the stores are done. -/
theorem traced_awaiting {point : ParserPoint F} (h : awaiting point = true) :
    ParserTraced past s point ↔
      (s.gnss_time_valid = true → ∃ time at_ms, Stored past s time at_ms) := by
  cases point <;> simp_all [awaiting, ParserTraced]

theorem traced_resting {point : ResponsePoint} (h : resting point = true) :
    ResponseTraced past s point := by
  rw [point_of_resting h]
  trivial

theorem parse_sentence_cases (f : GnssFunctions F) (sentence : GnssPacket) (now_ms : Nat) :
    awaiting (parse_sentence f sentence now_ms) = true ∨
      ∃ time, GnssTime.parse_rmc_datetime sentence.toList = .ok time ∧
        parse_sentence f sentence now_ms = .StoreSeconds time now_ms := by
  unfold parse_sentence
  split
  · split
    · rename_i time htime
      exact .inr ⟨time, htime, rfl⟩
    · exact .inl rfl
  · split <;> exact .inl rfl

theorem ParserTraced.parsed {now_ms : Nat} {point point' : ParserPoint F} {seen : List Event}
    (h : ParserTraced past s point) (hparsed : Parsed f s now_ms point s' point' seen) :
    ParserTraced (past ++ seen) s' point' := by
  cases hparsed with
  | check sentence =>
    rw [List.append_nil]
    split
    · exact h
    · rcases parse_sentence_cases f sentence now_ms with hawaiting | ⟨time, -, hpoint⟩
      · rw [traced_awaiting hawaiting]
        exact h
      · rw [hpoint]
        trivial
  | seconds time seen_ms => exact ⟨lastAccepted_accepted past time seen_ms, rfl⟩
  | milliseconds time seen_ms =>
    rw [List.append_nil]
    exact ⟨time, h.1, h.2, rfl⟩
  | updated seen_ms =>
    obtain ⟨time, haccepted, hseconds, hmilliseconds⟩ := h
    rw [List.append_nil]
    exact ⟨time, seen_ms, haccepted, hseconds, hmilliseconds, rfl⟩
  | valid =>
    obtain ⟨time, at_ms, haccepted, hseconds, hmilliseconds, hupdated⟩ := h
    rw [List.append_nil]
    exact fun _ => ⟨time, at_ms, haccepted, hseconds, hmilliseconds, hupdated⟩
  | position | tick =>
    rw [List.append_nil]
    intro hvalid
    obtain ⟨time, at_ms, h⟩ := h hvalid
    exact ⟨time, at_ms, h.same ⟨rfl, rfl, rfl, id⟩ rfl⟩
  | load_valid | load_updated =>
    rw [List.append_nil]
    split <;> exact h
  | invalid => exact nofun

theorem responded_same {now_ms : Nat} {room : Bool} {last : Option (UInt8 × Nat)}
    {point : ResponsePoint} {response' : Response} {seen : List Event}
    (h : Responded s now_ms room last point s' response' seen) :
    SameTime s s' ∧ lastAccepted (past ++ seen) = lastAccepted past := by
  cases h with
  | load_valid => exact ⟨.refl s, lastAccepted_asked past now_ms⟩
  | sent => exact ⟨.refl s, lastAccepted_answered past _ _ _⟩
  | invalid => exact ⟨⟨rfl, rfl, rfl, nofun⟩, by rw [List.append_nil]⟩
  | load_updated | load_seconds | load_milliseconds | full =>
    exact ⟨.refl s, by rw [List.append_nil]⟩

/-- The sum of the stored time and its age carries its milliseconds into the seconds. -/
theorem answers_of_fits {time : GnssDateTime} {age_ms : Nat}
    (hfits : time.unix_seconds.toNat + (time.milliseconds.toNat + age_ms) / 1000 < 2 ^ 32) :
    Answers time age_ms
      (.ofNat (time.unix_seconds.toNat + (time.milliseconds.toNat + age_ms) / 1000))
      (.ofNat ((time.milliseconds.toNat + age_ms) % 1000)) := by
  have hmilliseconds : (time.milliseconds.toNat + age_ms) % 1000 < 2 ^ 16 := by omega
  constructor
  · rw [UInt32.toNat_ofNat_of_lt' hfits, UInt16.toNat_ofNat_of_lt' hmilliseconds]
    omega
  · rw [UInt16.toNat_ofNat_of_lt' hmilliseconds]
    omega

theorem ResponseTraced.responded {now_ms : Nat} {room : Bool} {last : Option (UInt8 × Nat)}
    {point : ResponsePoint} {response' : Response} {seen : List Event}
    (h : ResponseTraced past s point)
    (hstored : s.gnss_time_valid = true → ∃ time at_ms, Stored past s time at_ms)
    (hresponded : Responded s now_ms room last point s' response' seen) :
    ResponseTraced (past ++ seen) s' response'.point := by
  cases hresponded with
  | load_valid request =>
    dsimp only
    split <;> rename_i hvalid
    · obtain ⟨time, at_ms, hstored⟩ := hstored hvalid
      exact ⟨lastAsked_asked past now_ms, time, at_ms,
        hstored.same (.refl s) (lastAccepted_asked past now_ms)⟩
    · trivial
  | load_updated request asked_ms =>
    obtain ⟨hasked, time, at_ms, hstored⟩ := h
    rw [List.append_nil]
    dsimp only
    split <;> rename_i hage
    · trivial
    · refine ⟨time, at_ms, hstored, ⟨asked_ms, hasked, ?_⟩, by omega⟩
      rw [hstored.updated, UInt32.toNat_ofNat']
  | load_seconds request age_ms =>
    obtain ⟨time, at_ms, hstored, haged⟩ := h
    rw [List.append_nil]
    exact ⟨time, at_ms, hstored, haged, hstored.seconds⟩
  | load_milliseconds request age_ms base_seconds =>
    obtain ⟨time, at_ms, hstored, haged, rfl⟩ := h
    rw [List.append_nil, hstored.milliseconds]
    dsimp only
    split <;> rename_i hfits
    · exact ⟨time, at_ms, age_ms, hstored.accepted, haged, answers_of_fits hfits⟩
    · trivial
  | sent | full | invalid => trivial

theorem Traced.parsed {w w' : Gnss F} {now_ms : Nat} (h : Traced past w)
    (hresting : resting w.response.point = true) (hstep : step_parse f w now_ms = some w') :
    Traced (past ++ look w (.parser now_ms)) w' := by
  obtain ⟨s', point', rfl, hparsed⟩ := parsed_of_step hstep
  exact ⟨.inl hresting, h.parser.parsed hparsed, traced_resting hresting⟩

theorem Traced.responded {w w' : Gnss F} {now_ms : Nat} {room : Bool} {reports : List Gnss.Report}
    (h : Traced past w) (hawaiting : awaiting w.parser = true)
    (hstep : w.step_response now_ms room = some (w', reports)) :
    Traced (past ++ look w (.response now_ms room)) w' := by
  obtain ⟨s', response', rfl, hresponded⟩ := responded_of_step hstep
  obtain ⟨hsame, hpast⟩ : SameTime w.shared s' ∧
      lastAccepted (past ++ look w (.response now_ms room)) = lastAccepted past :=
    responded_same hresponded
  have hstored := (traced_awaiting hawaiting).mp h.parser
  exact ⟨.inr hawaiting, h.parser.same hsame hpast, h.response.responded hstored hresponded⟩

theorem received_of_step {w w' : Gnss F} {reports : List Gnss.Report}
    (h : (machine f).step w .receive_sentence = some (w', reports)) :
    w.parser = .Select ∧ ∃ sentence gnss_channel,
      w' = { w with shared := { w.shared with gnss_channel }, parser := .Check sentence } := by
  simp only [machine, Gnss.step] at h
  split at h <;> rename_i hpoint
  · obtain ⟨_, -, h⟩ := Option.map_eq_some_iff.mp h
    obtain ⟨rfl, -⟩ := Prod.mk.inj h
    exact ⟨hpoint, _, _, rfl⟩
  · cases h

theorem ticked_of_step {w w' : Gnss F} {now_ms : Nat} {reports : List Gnss.Report}
    (h : (machine f).step w (.tick now_ms) = some (w', reports)) :
    w.parser = .Select ∧ w' = w.parser_at (.Tick now_ms) := by
  simp only [machine, Gnss.step] at h
  split at h <;> rename_i hpoint
  · obtain ⟨rfl, -⟩ := Prod.mk.inj (Option.some.inj h)
    exact ⟨hpoint, rfl⟩
  · cases h

theorem polled_of_step {w w' : Gnss F} {request : Option (UInt8 × Nat)} {reports : List Gnss.Report}
    (h : (machine f).step w (.poll request) = some (w', reports)) :
    w.response.point = .Wait ∧ w' = w.step_poll request := by
  simp only [machine, Gnss.step] at h
  split at h <;> rename_i hpoint
  · obtain ⟨rfl, -⟩ := Prod.mk.inj (Option.some.inj h)
    exact ⟨hpoint, rfl⟩
  · cases h

theorem Traced.polled {w : Gnss F} (h : Traced past w) (hawaiting : awaiting w.parser = true)
    (hwait : w.response.point = .Wait) (request : Option (UInt8 × Nat)) :
    Traced (past ++ look w (.poll request)) (w.step_poll request) := by
  unfold step_poll look
  cases request with
  | none => rwa [List.append_nil]
  | some request =>
    have hparser := h.parser.same (.refl w.shared) (lastAccepted_polled past request)
    dsimp only
    split
    · exact ⟨.inr hawaiting, hparser, traced_resting (by rw [hwait]; rfl)⟩
    · exact ⟨.inr hawaiting, hparser, trivial⟩

theorem traced_step {w w' : Gnss F} {a : Gnss.Action} {seen : List Event} (h : Traced past w)
    (hok : OneCore w a) (hstep : (logged f).step w a = some (w', seen)) :
    Traced (past ++ seen) w' := by
  obtain ⟨rfl, reports, hstep⟩ := Machine.observed_step hstep
  cases a with
  | parser now_ms =>
    obtain ⟨v, hparse, heq⟩ := Option.map_eq_some_iff.mp hstep
    obtain ⟨rfl, -⟩ := Prod.mk.inj heq
    exact h.parsed hok hparse
  | response now_ms room => exact h.responded hok hstep
  | poll request =>
    obtain ⟨hwait, rfl⟩ := polled_of_step hstep
    exact h.polled hok hwait request
  | receive_sentence =>
    obtain ⟨hselect, sentence, gnss_channel, rfl⟩ := received_of_step hstep
    have hparser := h.parser
    rw [hselect] at hparser
    have hpast : past ++ look w .receive_sentence = past := List.append_nil past
    rw [hpast]
    have hcheck : ParserTraced past w.shared (.Check sentence : ParserPoint F) := hparser
    exact ⟨.inl hok, hcheck.same ⟨rfl, rfl, rfl, id⟩ rfl, traced_resting hok⟩
  | tick now_ms =>
    obtain ⟨hselect, rfl⟩ := ticked_of_step hstep
    have hparser := h.parser
    rw [hselect] at hparser
    have hpast : past ++ look w (.tick now_ms) = past := List.append_nil past
    rw [hpast]
    exact ⟨.inl hok, hparser, traced_resting hok⟩
  | read | receive | configured | manager =>
    obtain ⟨hbeside, hlook⟩ := beside_step rfl hstep
    rw [hlook, List.append_nil]
    exact h.beside hbeside

theorem traced_run {w₀ w : Gnss F} (h : Traced [] w₀)
    (run : Machine.Run ((logged f).startingIn w₀) OneCore past w) : Traced past w := by
  refine run.invariant (I := Traced) ?_ ?_
  · rintro _ rfl
    exact h
  · intro past s a s' seen _ traced hok hstep
    exact traced_step traced hok hstep

theorem traced_start : Traced [] (Gnss.start : Gnss F) := ⟨.inl rfl, nofun, trivial⟩

theorem look_singleton {w : Gnss F} {a : Gnss.Action} {event : Event} {before after : List Event}
    (h : look w a = before ++ event :: after) : before = [] ∧ look w a = [event] := by
  have hlength : (look w a).length ≤ 1 := by
    unfold look
    split <;> try split
    all_goals first | exact Nat.le_refl _ | exact Nat.zero_le _ | split <;> simp
  rw [h, List.length_append, List.length_cons] at hlength
  obtain rfl := List.eq_nil_of_length_eq_zero (show before.length = 0 by omega)
  obtain rfl := List.eq_nil_of_length_eq_zero (show after.length = 0 by omega)
  exact ⟨rfl, h⟩

theorem send_of_answered {w : Gnss F} {a : Gnss.Action} {request : UInt8 × Nat}
    {unix_seconds : UInt32} {milliseconds : UInt16}
    (h : look w a = [.answered request unix_seconds milliseconds]) :
    w.response.point = .Send request unix_seconds milliseconds := by
  unfold look at h
  split at h
  · split at h <;> cases h
  · cases h
  · split at h
    · cases h
    · rename_i hpoint
      split at h <;> cases h
      exact hpoint
    · cases h
  · cases h

/-- Every answer is the time that was stored last, with the age that was computed. -/
theorem answered_traced {w₀ w : Gnss F} (h : Traced [] w₀)
    (run : Machine.Run ((logged f).startingIn w₀) OneCore past w) {before after : List Event}
    {request : UInt8 × Nat} {unix_seconds : UInt32} {milliseconds : UInt16}
    (hpast : past = before ++ .answered request unix_seconds milliseconds :: after) :
    ∃ time at_ms age_ms, lastAccepted before = some (time, at_ms) ∧ Aged before at_ms age_ms ∧
      Answers time age_ms unix_seconds milliseconds := by
  obtain ⟨past', v, a, v', new, later, run', hstep, rfl⟩ := run.reported hpast
  obtain ⟨hseen, -⟩ := Machine.observed_step hstep
  obtain ⟨rfl, hlook⟩ := look_singleton hseen.symm
  have hresponse := (traced_run h run').response
  rw [send_of_answered hlook] at hresponse
  rw [List.append_nil]
  exact hresponse

/-! ## Accepted times -/

@[simp]
theorem parser_poll (w : Gnss F) (request : Option (UInt8 × Nat)) :
    (w.step_poll request).parser = w.parser := by
  unfold step_poll
  split
  · rfl
  · split <;> rfl

@[simp]
theorem shared_poll (w : Gnss F) (request : Option (UInt8 × Nat)) :
    (w.step_poll request).shared = w.shared := by
  unfold step_poll
  split
  · rfl
  · split <;> rfl

def Accepts : ParserPoint F → Prop
  | .StoreSeconds time _ => ∃ sentence, GnssTime.parse_rmc_datetime sentence = .ok time
  | _ => True

theorem accepts_awaiting {point : ParserPoint F} (h : awaiting point = true) : Accepts point := by
  cases point <;> trivial

theorem accepts_parsed {now_ms : Nat} {point point' : ParserPoint F} {seen : List Event}
    (hparsed : Parsed f s now_ms point s' point' seen) : Accepts point' := by
  cases hparsed with
  | check sentence =>
    split
    · trivial
    · rcases parse_sentence_cases f sentence now_ms with hawaiting | ⟨time, htime, hpoint⟩
      · exact accepts_awaiting hawaiting
      · rw [hpoint]
        exact ⟨_, htime⟩
  | load_valid | load_updated => split <;> trivial
  | _ => trivial

theorem accepts_step {w w' : Gnss F} {a : Gnss.Action} {seen : List Event} (h : Accepts w.parser)
    (hstep : (logged f).step w a = some (w', seen)) : Accepts w'.parser := by
  obtain ⟨-, reports, hstep⟩ := Machine.observed_step hstep
  cases a with
  | parser now_ms =>
    obtain ⟨v, hparse, heq⟩ := Option.map_eq_some_iff.mp hstep
    obtain ⟨rfl, -⟩ := Prod.mk.inj heq
    obtain ⟨s', point', rfl, hparsed⟩ := parsed_of_step hparse
    exact accepts_parsed hparsed
  | response now_ms room =>
    obtain ⟨s', response', rfl, -⟩ := responded_of_step hstep
    exact h
  | poll request =>
    obtain ⟨-, rfl⟩ := polled_of_step hstep
    rw [parser_poll]
    exact h
  | receive_sentence =>
    obtain ⟨-, sentence, gnss_channel, rfl⟩ := received_of_step hstep
    trivial
  | tick now_ms =>
    obtain ⟨-, rfl⟩ := ticked_of_step hstep
    trivial
  | read | receive | configured | manager =>
    rw [(beside_step rfl hstep).1.parser]
    exact h

theorem accepts_run {w₀ w : Gnss F} {ok : Gnss F → Gnss.Action → Prop} (h : Accepts w₀.parser)
    (run : Machine.Run ((logged f).startingIn w₀) ok past w) : Accepts w.parser := by
  refine run.always (I := fun w => Accepts w.parser) ?_ ?_
  · rintro _ rfl
    exact h
  · intro s a s' seen haccepts _ hstep
    exact accepts_step haccepts hstep

/-! ## The window -/

/-- The time is stored and not yet stale. -/
def Within (t0 now_ms : Nat) : Prop := t0 ≤ now_ms ∧ now_ms < t0 + GNSS_STALE_TIMEOUT_MS

/-- The manager takes the time back: in `TurnOff`, and where it configures a receiver that is off. -/
def clears : ManagerPoint → Bool
  | .OnTime | .FailTime | .OffTime => true
  | _ => false

/-- No other time is stored. The clock of a poll is within the window. -/
def Fits (time : GnssDateTime) (t0 : Nat) : Event → Prop
  | .accepted newer at_ms => newer = time ∧ at_ms = t0
  | .asked now_ms => Within t0 now_ms
  | .polled _ | .answered _ _ _ => True

def Calm (t0 : Nat) (w : Gnss F) : Gnss.Action → Prop
  | .manager _ => clears w.manager.point = false
  | .tick now_ms => Within t0 now_ms
  | .response _ room =>
    match w.response.point with
    | .Send _ _ _ => room = true
    | _ => True
  | _ => True

structure Undisturbed (time : GnssDateTime) (t0 : Nat) (w : Gnss F) (a : Gnss.Action) : Prop where
  one_core : OneCore w a
  fits : ∀ event ∈ look w a, Fits time t0 event
  calm : Calm t0 w a

/-- The parser is between the first store and the last. -/
def storing : ParserPoint F → Bool
  | .StoreSeconds _ _ | .StoreMilliseconds _ _ | .StoreUpdated _ | .StoreValid => true
  | _ => false

def ParserKept (t0 : Nat) : ParserPoint F → Prop
  | .Tick tick_ms | .LoadValid tick_ms | .LoadUpdated tick_ms => Within t0 tick_ms
  | .StoreInvalid => False
  | _ => True

/-- The stored time stays valid. -/
structure Kept (t0 : Nat) (w : Gnss F) : Prop where
  valid : storing w.parser = false → w.shared.gnss_time_valid = true
  parser : ParserKept t0 w.parser
  response : w.response.point ≠ .StoreInvalid

section Window

variable {time : GnssDateTime} {t0 : Nat}

theorem accepted_fits {newer : GnssDateTime} {at_ms : Nat}
    (h : lastAccepted past = some (newer, at_ms)) (hfits : ∀ event ∈ past, Fits time t0 event) :
    newer = time ∧ at_ms = t0 := by
  obtain ⟨event, hmem, heq⟩ := List.exists_of_findSome?_eq_some h
  have hfits := hfits event (List.mem_reverse.mp hmem)
  cases event <;> simp at heq
  obtain ⟨rfl, rfl⟩ := heq
  exact hfits

theorem asked_fits {now_ms : Nat} (h : lastAsked past = some now_ms)
    (hfits : ∀ event ∈ past, Fits time t0 event) : Within t0 now_ms := by
  obtain ⟨event, hmem, heq⟩ := List.exists_of_findSome?_eq_some h
  have hfits := hfits event (List.mem_reverse.mp hmem)
  cases event <;> simp at heq
  subst heq
  exact hfits

/-- The stamp is exact below 32 bits. -/
theorem Stored.updated_eq {newer : GnssDateTime} {at_ms : Nat} (h : Stored past s newer at_ms)
    (hfits : ∀ event ∈ past, Fits time t0 event) (ht0 : t0 < 2 ^ 32) :
    s.gnss_time_updated_at_ms.toNat = t0 := by
  obtain ⟨-, rfl⟩ := accepted_fits h.accepted hfits
  rw [h.updated]
  exact UInt32.toNat_ofNat_of_lt' ht0

theorem kept_parsed {now_ms : Nat} {point point' : ParserPoint F} {seen : List Event}
    (hvalid : storing point = false → s.gnss_time_valid = true) (hkept : ParserKept t0 point)
    (htraced : ParserTraced past s point) (hfits : ∀ event ∈ past, Fits time t0 event)
    (ht0 : t0 < 2 ^ 32) (hparsed : Parsed f s now_ms point s' point' seen) :
    (storing point' = false → s'.gnss_time_valid = true) ∧ ParserKept t0 point' := by
  cases hparsed with
  | check sentence =>
    refine ⟨fun _ => hvalid rfl, ?_⟩
    split
    · trivial
    · unfold parse_sentence
      split
      · split <;> trivial
      · split <;> trivial
  | seconds | milliseconds | updated => exact ⟨nofun, trivial⟩
  | valid => exact ⟨fun _ => rfl, trivial⟩
  | position => exact ⟨fun _ => hvalid rfl, trivial⟩
  | tick => exact ⟨fun _ => hvalid rfl, hkept⟩
  | load_valid =>
    refine ⟨fun _ => hvalid rfl, ?_⟩
    split
    · exact hkept
    · trivial
  | load_updated tick_ms =>
    obtain ⟨newer, at_ms, hstored⟩ := htraced (hvalid rfl)
    have hfresh : elapsed tick_ms s.gnss_time_updated_at_ms.toNat = false := by
      rw [hstored.updated_eq hfits ht0]
      have hlt : tick_ms < t0 + 3000 := hkept.2
      have hnot : ¬ tick_ms - t0 ≥ 3000 := by omega
      exact decide_eq_false hnot
    rw [if_neg (by simp [hfresh])]
    exact ⟨fun _ => hvalid rfl, trivial⟩
  | invalid => exact hkept.elim

theorem kept_responded {now_ms : Nat} {room : Bool} {last : Option (UInt8 × Nat)}
    {point : ResponsePoint} {response' : Response} {seen : List Event}
    (hkept : point ≠ .StoreInvalid) (htraced : ResponseTraced past s point)
    (hfits : ∀ event ∈ past, Fits time t0 event) (ht0 : t0 < 2 ^ 32)
    (hbounds : time.unix_seconds.toNat + 4 < 2 ^ 32 ∧ time.milliseconds.toNat ≤ 999)
    (hresponded : Responded s now_ms room last point s' response' seen) :
    s'.gnss_time_valid = s.gnss_time_valid ∧ response'.point ≠ .StoreInvalid := by
  cases hresponded with
  | load_valid request =>
    refine ⟨rfl, ?_⟩
    dsimp only
    split <;> nofun
  | load_updated request asked_ms =>
    obtain ⟨hasked, newer, at_ms, hstored⟩ := htraced
    obtain ⟨-, hlt⟩ := asked_fits hasked hfits
    have hfresh : ¬ asked_ms - s.gnss_time_updated_at_ms.toNat > GNSS_STALE_TIMEOUT_MS := by
      rw [hstored.updated_eq hfits ht0]
      omega
    rw [if_neg hfresh]
    exact ⟨rfl, nofun⟩
  | load_seconds => exact ⟨rfl, nofun⟩
  | load_milliseconds request age_ms base_seconds =>
    obtain ⟨newer, at_ms, hstored, haged, rfl⟩ := htraced
    obtain ⟨rfl, -⟩ := accepted_fits hstored.accepted hfits
    have hage : age_ms ≤ 3000 := haged.fresh
    have hfit : newer.unix_seconds.toNat + (s.gnss_time_milliseconds.toNat + age_ms) / 1000 <
        2 ^ 32 := by
      rw [hstored.milliseconds]
      omega
    rw [if_pos hfit]
    exact ⟨rfl, nofun⟩
  | sent | full => exact ⟨rfl, nofun⟩
  | invalid => exact absurd rfl hkept

theorem beside_valid {w w' : Gnss F} {a : Gnss.Action} {reports : List Gnss.Report}
    (hacts : managerActs a = true) (hcalm : Calm t0 w a)
    (h : (machine f).step w a = some (w', reports)) :
    w'.shared.gnss_time_valid = w.shared.gnss_time_valid := by
  cases stepped h with
  | read =>
    unfold step_letters
    dsimp only
    split <;> rfl
  | @receive command =>
    unfold step_command
    split
    · split <;> rfl
    · rfl
  | configured =>
    unfold step_configured
    split <;> rfl
  | manager hmanager =>
    cases hmanager with
    | send =>
      unfold step_letters
      dsimp only
      split <;> rfl
    | on_time hpoint | fail_time hpoint | off_time hpoint => simp [Calm, hpoint, clears] at hcalm
    | _ => rfl
  | _ => cases hacts

theorem kept_step {w w' : Gnss F} {a : Gnss.Action} {seen : List Event} (ht0 : t0 < 2 ^ 32)
    (hbounds : time.unix_seconds.toNat + 4 < 2 ^ 32 ∧ time.milliseconds.toNat ≤ 999)
    (traced : Traced past w) (hfits : ∀ event ∈ past, Fits time t0 event) (kept : Kept t0 w)
    (hok : Undisturbed time t0 w a) (hstep : (logged f).step w a = some (w', seen)) :
    Kept t0 w' := by
  obtain ⟨hvalid, hparser, hresponse⟩ := kept
  obtain ⟨-, reports, hstep⟩ := Machine.observed_step hstep
  cases a with
  | parser now_ms =>
    obtain ⟨v, hparse, heq⟩ := Option.map_eq_some_iff.mp hstep
    obtain ⟨rfl, -⟩ := Prod.mk.inj heq
    obtain ⟨s', point', rfl, hparsed⟩ := parsed_of_step hparse
    obtain ⟨hvalid', hparser'⟩ := kept_parsed hvalid hparser traced.parser hfits ht0 hparsed
    exact ⟨hvalid', hparser', hresponse⟩
  | response now_ms room =>
    obtain ⟨s', response', rfl, hresponded⟩ := responded_of_step hstep
    obtain ⟨hsame, hresponse'⟩ := kept_responded hresponse traced.response hfits ht0 hbounds hresponded
    exact ⟨fun hstoring => hsame.trans (hvalid hstoring), hparser, hresponse'⟩
  | poll request =>
    obtain ⟨hwait, rfl⟩ := polled_of_step hstep
    refine ⟨by simpa using hvalid, by simpa using hparser, ?_⟩
    unfold step_poll
    split
    · exact hresponse
    · split
      · exact hresponse
      · nofun
  | receive_sentence =>
    obtain ⟨hselect, sentence, gnss_channel, rfl⟩ := received_of_step hstep
    rw [hselect] at hvalid
    exact ⟨fun _ => hvalid rfl, trivial, hresponse⟩
  | tick now_ms =>
    obtain ⟨hselect, rfl⟩ := ticked_of_step hstep
    rw [hselect] at hvalid
    exact ⟨fun _ => hvalid rfl, hok.calm, hresponse⟩
  | read | receive | configured | manager =>
    obtain ⟨⟨hparser', hresponse', -⟩, -⟩ := beside_step rfl hstep
    rw [← hparser'] at hvalid hparser
    rw [← hresponse'] at hresponse
    exact ⟨fun hstoring => (beside_valid rfl hok.calm hstep).trans (hvalid hstoring), hparser,
      hresponse⟩

theorem fits_run {w₀ w : Gnss F}
    (run : Machine.Run ((logged f).startingIn w₀) (Undisturbed time t0) past w) :
    ∀ event ∈ past, Fits time t0 event := by
  refine run.invariant (I := fun past _ => ∀ event ∈ past, Fits time t0 event) ?_ ?_
  · intro _ _
    nofun
  · intro past s a s' seen _ hfits hok hstep event hmem
    obtain ⟨rfl, -⟩ := Machine.observed_step hstep
    rcases List.mem_append.mp hmem with hmem | hmem
    · exact hfits event hmem
    · exact hok.fits event hmem

theorem kept_run {w₀ w : Gnss F} (ht0 : t0 < 2 ^ 32)
    (hbounds : time.unix_seconds.toNat + 4 < 2 ^ 32 ∧ time.milliseconds.toNat ≤ 999)
    (traced : Traced [] w₀) (kept : Kept t0 w₀)
    (run : Machine.Run ((logged f).startingIn w₀) (Undisturbed time t0) past w) : Kept t0 w := by
  refine run.invariant (I := fun _ w => Kept t0 w) ?_ ?_
  · rintro _ rfl
    exact kept
  · intro past s a s' seen run kept hok hstep
    have traced := traced_run traced (run.mono fun _ _ hok => hok.one_core)
    exact kept_step ht0 hbounds traced (fits_run run) kept hok hstep

/-! ## One answer for a request -/

def polled (past : List Event) : List (UInt8 × Nat) :=
  past.filterMap fun
    | .polled request => some request
    | _ => none

def answered (past : List Event) : List (UInt8 × Nat) :=
  past.filterMap fun
    | .answered request _ _ => some request
    | _ => none

/-- The answers that these polls ask for, after that of `last`: one for each new request. -/
def due : Option (UInt8 × Nat) → List (UInt8 × Nat) → List (UInt8 × Nat)
  | _, [] => []
  | last, request :: requests =>
    if last = some request then due last requests else request :: due (some request) requests

/-- The request that was answered last, when all of them are. -/
def newest (last : Option (UInt8 × Nat)) (requests : List (UInt8 × Nat)) : Option (UInt8 × Nat) :=
  requests.getLast?.or last

@[simp]
theorem newest_snoc (last : Option (UInt8 × Nat)) (requests : List (UInt8 × Nat))
    (request : UInt8 × Nat) : newest last (requests ++ [request]) = some request := by
  simp [newest]

theorem newest_cons (last : Option (UInt8 × Nat)) (request : UInt8 × Nat)
    (requests : List (UInt8 × Nat)) :
    newest last (request :: requests) = newest (some request) requests := by
  unfold newest
  rw [List.getLast?_cons]
  cases requests.getLast? <;> rfl

theorem due_snoc (last : Option (UInt8 × Nat)) (requests : List (UInt8 × Nat))
    (request : UInt8 × Nat) :
    due last (requests ++ [request]) =
      due last requests ++ if newest last requests = some request then [] else [request] := by
  induction requests generalizing last with
  | nil => rfl
  | cons first requests ih =>
    simp only [List.cons_append, due, newest_cons, ih]
    split
    · rename_i hlast
      rw [hlast]
    · rfl

/-- While one request stands, there is one answer. -/
theorem due_replicate (last : Option (UInt8 × Nat)) (request : UInt8 × Nat) (n : Nat)
    (hlast : last ≠ some request) : due last (List.replicate (n + 1) request) = [request] := by
  have hsame : ∀ n, due (some request) (List.replicate n request) = [] := by
    intro n
    induction n with
    | zero => rfl
    | succ n ih => simpa [List.replicate_succ, due] using ih
  simp [List.replicate_succ, due, hlast, hsame]

@[simp]
theorem polled_append (past seen : List Event) : polled (past ++ seen) = polled past ++ polled seen :=
  List.filterMap_append

@[simp]
theorem answered_append (past seen : List Event) :
    answered (past ++ seen) = answered past ++ answered seen := List.filterMap_append

def asking : ResponsePoint → Option (UInt8 × Nat)
  | .LoadValid request | .LoadUpdated request _ | .LoadSeconds request _
  | .LoadMilliseconds request _ _ | .Send request _ _ => some request
  | .Wait | .StoreInvalid => none

/-- The polls so far are answered, up to the one that is being served. -/
def Booked (last : Option (UInt8 × Nat)) (past : List Event) (response : Response) : Prop :=
  match asking response.point with
  | none => response.last_response = newest last (polled past) ∧ answered past = due last (polled past)
  | some request => ∃ earlier, polled past = earlier ++ [request] ∧
    response.last_response = newest last earlier ∧ response.last_response ≠ some request ∧
      answered past = due last earlier

theorem Booked.same {last : Option (UInt8 × Nat)} {seen : List Event} {response response' : Response}
    (h : Booked last past response) (hasking : asking response'.point = asking response.point)
    (hlast : response'.last_response = response.last_response) (hpolled : polled seen = [])
    (hanswered : answered seen = []) : Booked last (past ++ seen) response' := by
  unfold Booked
  rw [hasking, hlast, polled_append, answered_append, hpolled, hanswered, List.append_nil,
    List.append_nil]
  exact h

theorem Booked.poll {last : Option (UInt8 × Nat)} {w : Gnss F} (h : Booked last past w.response)
    (hwait : w.response.point = .Wait) (request : Option (UInt8 × Nat)) :
    Booked last (past ++ look w (.poll request)) (w.step_poll request).response := by
  unfold step_poll look
  cases request with
  | none => exact h.same rfl rfl rfl rfl
  | some request =>
    simp only [Booked, hwait, asking] at h
    obtain ⟨hlast, hanswered⟩ := h
    have hpolled : polled (past ++ [.polled request]) =
        polled past ++ [request] := polled_append past _
    have hnothing : answered (past ++ [.polled request]) = answered past :=
      (answered_append past _).trans (List.append_nil _)
    dsimp only
    split <;> rename_i hsame
    · simp only [Booked, hwait, asking]
      rw [hpolled, hnothing, newest_snoc, due_snoc, ← hlast, if_pos hsame, List.append_nil]
      exact ⟨hsame, hanswered⟩
    · exact ⟨polled past, hpolled, hlast, hsame, hnothing.trans hanswered⟩

theorem Booked.respond {last : Option (UInt8 × Nat)} {now_ms : Nat} {room : Bool}
    {response response' : Response} {seen : List Event} (h : Booked last past response)
    (hvalid : s.gnss_time_valid = true) (hkept : response'.point ≠ .StoreInvalid)
    (hroom : (∃ request unix_seconds milliseconds,
      response.point = .Send request unix_seconds milliseconds) → room = true)
    (hresponded : Responded s now_ms room response.last_response response.point s' response' seen) :
    Booked last (past ++ seen) response' := by
  generalize hpoint : response.point = point at hresponded
  cases hresponded with
  | load_valid request =>
    refine h.same ?_ rfl rfl rfl
    rw [if_pos hvalid, hpoint]
    rfl
  | load_updated request asked_ms =>
    refine h.same ?_ rfl rfl rfl
    dsimp only at hkept ⊢
    split at hkept
    · exact absurd rfl hkept
    · rename_i hfresh
      rw [if_neg hfresh, hpoint]
      rfl
  | load_seconds => exact h.same (by rw [hpoint]; rfl) rfl rfl rfl
  | load_milliseconds request age_ms base_seconds =>
    refine h.same ?_ rfl rfl rfl
    dsimp only at hkept ⊢
    split at hkept
    · rename_i hfits
      rw [if_pos hfits, hpoint]
      rfl
    · exact absurd rfl hkept
  | sent request unix_seconds milliseconds =>
    simp only [Booked, hpoint, asking] at h
    obtain ⟨earlier, hpolled, hlast, hnew, hanswered⟩ := h
    rw [hlast] at hnew
    have hnothing : polled (past ++ [.answered request unix_seconds milliseconds]) =
        earlier ++ [request] := by
      rw [← hpolled]
      exact (polled_append past _).trans (List.append_nil _)
    have hone : answered (past ++ [.answered request unix_seconds milliseconds]) =
        due last earlier ++ [request] := by
      rw [← hanswered]
      exact answered_append past _
    simp only [Booked, asking]
    rw [hnothing, hone, newest_snoc, due_snoc, if_neg hnew]
    exact ⟨rfl, rfl⟩
  | full request unix_seconds milliseconds hfull =>
    rw [hroom ⟨request, unix_seconds, milliseconds, hpoint⟩] at hfull
    cases hfull
  | invalid => exact h.same (by rw [hpoint]; rfl) rfl rfl rfl

theorem Calm.room {w : Gnss F} {now_ms : Nat} {room : Bool} (h : Calm t0 w (.response now_ms room))
    (hsend : ∃ request unix_seconds milliseconds,
      w.response.point = .Send request unix_seconds milliseconds) : room = true := by
  obtain ⟨request, unix_seconds, milliseconds, hpoint⟩ := hsend
  simpa only [Calm, hpoint] using h

theorem quiet_parse (w : Gnss F) (now_ms : Nat) :
    polled (look w (.parser now_ms)) = [] ∧ answered (look w (.parser now_ms)) = [] := by
  unfold look
  dsimp only
  split <;> exact ⟨rfl, rfl⟩

theorem storing_of_awaiting {point : ParserPoint F} (h : awaiting point = true) :
    storing point = false := by
  cases point <;> first | rfl | cases h

theorem booked_step {w w' : Gnss F} {a : Gnss.Action} {seen : List Event}
    {last : Option (UInt8 × Nat)} (kept : Kept t0 w) (kept' : Kept t0 w')
    (h : Booked last past w.response) (hok : Undisturbed time t0 w a)
    (hstep : (logged f).step w a = some (w', seen)) : Booked last (past ++ seen) w'.response := by
  obtain ⟨rfl, reports, hstep⟩ := Machine.observed_step hstep
  cases a with
  | parser now_ms =>
    obtain ⟨v, hparse, heq⟩ := Option.map_eq_some_iff.mp hstep
    obtain ⟨rfl, -⟩ := Prod.mk.inj heq
    obtain ⟨hpolled, hanswered⟩ := quiet_parse w now_ms
    obtain ⟨s', point', rfl, -⟩ := parsed_of_step hparse
    exact h.same rfl rfl hpolled hanswered
  | response now_ms room =>
    obtain ⟨s', response', rfl, hresponded⟩ := responded_of_step hstep
    have hvalid := kept.valid (storing_of_awaiting hok.one_core)
    exact h.respond hvalid kept'.response hok.calm.room hresponded
  | poll request =>
    obtain ⟨hwait, rfl⟩ := polled_of_step hstep
    exact h.poll hwait request
  | receive_sentence =>
    obtain ⟨-, sentence, gnss_channel, rfl⟩ := received_of_step hstep
    exact h.same rfl rfl rfl rfl
  | tick now_ms =>
    obtain ⟨-, rfl⟩ := ticked_of_step hstep
    exact h.same rfl rfl rfl rfl
  | read | receive | configured | manager =>
    obtain ⟨⟨-, hresponse, -⟩, hlook⟩ := beside_step rfl hstep
    rw [hlook, hresponse]
    exact h.same rfl rfl rfl rfl

theorem booked_run {w₀ w : Gnss F} (ht0 : t0 < 2 ^ 32)
    (hbounds : time.unix_seconds.toNat + 4 < 2 ^ 32 ∧ time.milliseconds.toNat ≤ 999)
    (traced : Traced [] w₀) (kept : Kept t0 w₀) (hwait : w₀.response.point = .Wait)
    (run : Machine.Run ((logged f).startingIn w₀) (Undisturbed time t0) past w) :
    Booked w₀.response.last_response past w.response := by
  refine run.invariant (I := fun past w => Booked w₀.response.last_response past w.response) ?_ ?_
  · rintro _ rfl
    simp only [Booked, hwait, asking]
    exact ⟨rfl, rfl⟩
  · intro past s a s' seen run booked hok hstep
    have kept_before := kept_run ht0 hbounds traced kept run
    have kept_after := kept_run ht0 hbounds traced kept (run.step hok hstep)
    exact booked_step kept_before kept_after booked hok hstep

/-! ## The end of a poll -/

def remaining : ResponsePoint → Nat
  | .Wait => 0
  | .LoadValid _ => 5
  | .LoadUpdated _ _ => 4
  | .LoadSeconds _ _ => 3
  | .LoadMilliseconds _ _ _ => 2
  | .Send _ _ _ | .StoreInvalid => 1

theorem responded_remaining {now_ms : Nat} {room : Bool} {last : Option (UInt8 × Nat)}
    {point : ResponsePoint} {response' : Response} {seen : List Event}
    (h : Responded s now_ms room last point s' response' seen) :
    remaining response'.point < remaining point := by
  cases h with
  | load_valid | load_updated | load_milliseconds =>
    dsimp only
    split <;> simp [remaining]
  | _ => simp [remaining]

theorem responding {w : Gnss F} (h : w.response.point ≠ .Wait) (now_ms : Nat) (room : Bool) :
    ∃ w' reports, w.step_response now_ms room = some (w', reports) := by
  unfold step_response
  split
  · contradiction
  · exact ⟨_, _, rfl⟩
  · exact ⟨_, _, rfl⟩
  · exact ⟨_, _, rfl⟩
  · exact ⟨_, _, rfl⟩
  · split <;> exact ⟨_, _, rfl⟩
  · exact ⟨_, _, rfl⟩

theorem undisturbed_response {w : Gnss F} {now_ms : Nat} (hawaiting : awaiting w.parser = true)
    (hwithin : Within t0 now_ms) : Undisturbed time t0 w (.response now_ms true) := by
  refine ⟨hawaiting, ?_, ?_⟩
  · intro event hmem
    unfold look at hmem
    dsimp only at hmem
    split at hmem
    · obtain rfl := List.mem_singleton.mp hmem
      exact hwithin
    · obtain rfl := List.mem_singleton.mp hmem
      trivial
    · cases hmem
  · unfold Calm
    dsimp only
    split <;> trivial

theorem look_response (w : Gnss F) (now_ms : Nat) (room : Bool) :
    polled (look w (.response now_ms room)) = [] := by
  unfold look
  dsimp only
  split
  · rfl
  · split <;> rfl
  · rfl

/-- The response task needs nobody else to finish a poll. -/
theorem comes_to_rest {w₀ w : Gnss F} {now_ms n : Nat} (traced : Traced [] w₀)
    (run : Machine.Run ((logged f).startingIn w₀) (Undisturbed time t0) past w)
    (hwithin : Within t0 now_ms) (hn : remaining w.response.point ≤ n) :
    ∃ k w' later,
      (logged f).exec w (List.replicate k (.response now_ms true)) = some (w', later) ∧
        Machine.Run ((logged f).startingIn w₀) (Undisturbed time t0) (past ++ later) w' ∧
          w'.response.point = .Wait ∧ polled later = [] := by
  induction n generalizing past w with
  | zero =>
    refine ⟨0, w, [], rfl, by rwa [List.append_nil], ?_, rfl⟩
    cases hpoint : w.response.point <;> simp [hpoint, remaining] at hn ⊢
  | succ n ih =>
    by_cases hwait : w.response.point = .Wait
    · exact ⟨0, w, [], rfl, by rwa [List.append_nil], hwait, rfl⟩
    · have hawaiting : awaiting w.parser = true := by
        have traced := traced_run traced (run.mono fun _ _ hok => hok.one_core)
        exact traced.apart.resolve_left fun hresting => hwait (point_of_resting hresting)
      obtain ⟨w₁, reports, hstep⟩ := responding hwait now_ms true
      have hlogged : (logged f).step w (.response now_ms true) =
          some (w₁, look w (.response now_ms true)) :=
        congrArg (Option.map _) hstep
      have hfewer : remaining w₁.response.point ≤ n := by
        obtain ⟨s', response', rfl, hresponded⟩ := responded_of_step hstep
        have hlt := responded_remaining hresponded
        dsimp only
        omega
      obtain ⟨k, w', later, hexec, run', hrest, hnothing⟩ :=
        ih (run.step (undisturbed_response hawaiting hwithin) hlogged) hfewer
      refine ⟨k + 1, w', look w (.response now_ms true) ++ later, ?_, ?_, hrest, ?_⟩
      · simp only [List.replicate_succ, Machine.exec, hlogged, hexec, Option.map_some]
      · rwa [← List.append_assoc]
      · rw [polled_append, look_response, hnothing]
        rfl

/-! ## A receiver that stays on -/

theorem stays_on {w₀ w : Gnss F} (consistent : Consistent f w₀) (hon : w₀.manager.is_on = true)
    (run : Machine.Run ((logged f).startingIn w₀) (fun _ a => a ≠ .receive .TurnOff) past w) :
    Consistent f w ∧ w.manager.is_on = true := by
  refine run.always (I := fun w => Consistent f w ∧ w.manager.is_on = true) ?_ ?_
  · rintro _ rfl
    exact ⟨consistent, hon⟩
  · rintro s a s' seen ⟨consistent, hon⟩ hok hstep
    obtain ⟨-, reports, hstep⟩ := Machine.observed_step hstep
    refine ⟨consistent_step consistent hstep, ?_⟩
    cases stepped hstep with
    | read =>
      unfold step_letters
      dsimp only
      split <;> exact hon
    | @receive command =>
      cases command with
      | TurnOn =>
        unfold step_command
        rw [if_pos hon]
        exact hon
      | TurnOff => exact absurd rfl hok
    | @configured configuration =>
      unfold step_configured
      split
      · exact hon
      · exact hon
      · exact hon
      · rfl
    | manager hmanager =>
      cases hmanager with
      | send =>
        unfold step_letters
        dsimp only
        split <;> exact hon
      | _ => exact hon
    | parser hparse => exact (congrArg Manager.is_on hparse.elsewhere.manager).trans hon
    | poll => exact (congrArg Manager.is_on (poll_elsewhere (f := f) s _).manager).trans hon
    | response hresponse =>
      exact (congrArg Manager.is_on (response_elsewhere (f := f) hresponse).manager).trans hon
    | receive_sentence | tick => exact hon

theorem not_clears {w : Gnss F} (consistent : Consistent f w) (hon : w.manager.is_on = true) :
    clears w.manager.point = false := by
  have held := consistent.held
  unfold Held at held
  split at held <;> rename_i hpoint <;> simp_all [clears]

/-! ## Every uptime -/

structure Exact (time : GnssDateTime) (t0 now_ms : Nat) (request : UInt8 × Nat)
    (unix_seconds : UInt32) (milliseconds : UInt16) : Prop where
  within : Within t0 now_ms
  total : unix_seconds.toNat * 1000 + milliseconds.toNat =
    time.unix_seconds.toNat * 1000 + time.milliseconds.toNat + (now_ms - t0)
  milliseconds_le : milliseconds.toNat ≤ 999
  encoded : ∃ payload,
    (CanTxMessage.TimeResponse request.1 .Gnss unix_seconds milliseconds).encode_payload = .ok payload

/-- Every new request of the window gets one answer: the stored time and its age. -/
structure AnsweredOnce (f : GnssFunctions F) (time : GnssDateTime) (t0 : Nat)
    (last : Option (UInt8 × Nat)) (past : List Event) (w : Gnss F) : Prop where
  exact : ∀ before after request unix_seconds milliseconds,
    past = before ++ .answered request unix_seconds milliseconds :: after →
      ∃ now_ms, lastAsked before = some now_ms ∧
        Exact time t0 now_ms request unix_seconds milliseconds
  answers : w.response.point = .Wait → answered past = due last (polled past)
  once : ∀ request n, polled past = List.replicate (n + 1) request → last ≠ some request →
    w.response.point = .Wait → answered past = [request]
  /-- A poll comes to its end by the steps of the response task alone. -/
  finishes : ∀ now_ms, Within t0 now_ms → ∃ k w' later,
    (logged f).exec w (List.replicate k (.response now_ms true)) = some (w', later) ∧
      w'.response.point = .Wait ∧ answered (past ++ later) = due last (polled past)

/-- What is answered is a time that was stored at most three seconds ago. -/
def Recent (before : List Event) (unix_seconds : UInt32) (milliseconds : UInt16) : Prop :=
  ∃ time at_ms now_ms, lastAccepted before = some (time, at_ms) ∧ lastAsked before = some now_ms ∧
    now_ms ≤ at_ms + GNSS_STALE_TIMEOUT_MS ∧
      unix_seconds.toNat * 1000 + milliseconds.toNat =
        time.unix_seconds.toNat * 1000 + time.milliseconds.toNat + (now_ms - at_ms % 2 ^ 32)

theorem encodes {request_id : UInt8} {unix_seconds : UInt32} {milliseconds : UInt16}
    (h : milliseconds.toNat ≤ 999) : ∃ payload,
      (CanTxMessage.TimeResponse request_id .Gnss unix_seconds milliseconds).encode_payload =
        .ok payload := by
  have hle : ¬ milliseconds > 999 := by
    rw [gt_iff_lt, UInt16.lt_iff_toNat_lt, not_lt]
    exact h
  exact ⟨_, if_neg hle⟩

theorem booked_wait {last : Option (UInt8 × Nat)} {response : Response}
    (h : Booked last past response) (hwait : response.point = .Wait) :
    answered past = due last (polled past) := by
  simp only [Booked, hwait, asking] at h
  exact h.2

theorem answered_exact {w₀ w : Gnss F} (ht0 : t0 < 2 ^ 32) (traced : Traced [] w₀)
    (run : Machine.Run ((logged f).startingIn w₀) (Undisturbed time t0) past w)
    {before after : List Event} {request : UInt8 × Nat} {unix_seconds : UInt32}
    {milliseconds : UInt16}
    (hpast : past = before ++ .answered request unix_seconds milliseconds :: after) :
    ∃ now_ms, lastAsked before = some now_ms ∧
      Exact time t0 now_ms request unix_seconds milliseconds := by
  have hfits : ∀ event ∈ before, Fits time t0 event := by
    intro event hmem
    exact fits_run run event (by rw [hpast]; exact List.mem_append_left _ hmem)
  obtain ⟨newer, at_ms, age_ms, haccepted, ⟨⟨now_ms, hasked, hage⟩, -⟩, htotal, hmilliseconds⟩ :=
    answered_traced traced (run.mono fun _ _ hok => hok.one_core) hpast
  obtain ⟨rfl, rfl⟩ := accepted_fits haccepted hfits
  rw [Nat.mod_eq_of_lt ht0] at hage
  exact ⟨now_ms, hasked, asked_fits hasked hfits, hage ▸ htotal, hmilliseconds, encodes hmilliseconds⟩

/-- The stamp is cut to 32 bits, so the age is at least `2 ^ 32`. -/
theorem none_answered {w₀ w : Gnss F} (ht0 : 2 ^ 32 ≤ t0) (traced : Traced [] w₀)
    (run : Machine.Run ((logged f).startingIn w₀) (Undisturbed time t0) past w) :
    answered past = [] := by
  have hnone : ∀ event ∈ past, ∀ request unix_seconds milliseconds,
      event ≠ .answered request unix_seconds milliseconds := by
    rintro _ hmem request unix_seconds milliseconds rfl
    obtain ⟨before, after, hpast⟩ := List.append_of_mem hmem
    have hfits : ∀ event ∈ before, Fits time t0 event := by
      intro event hmem
      exact fits_run run event (by rw [hpast]; exact List.mem_append_left _ hmem)
    obtain ⟨newer, at_ms, age_ms, haccepted, ⟨⟨now_ms, hasked, hage⟩, hfresh⟩, -⟩ :=
      answered_traced traced (run.mono fun _ _ hok => hok.one_core) hpast
    obtain ⟨-, rfl⟩ := accepted_fits haccepted hfits
    have hwithin := (asked_fits hasked hfits).1
    have hfresh : age_ms ≤ 3000 := hfresh
    omega
  refine List.filterMap_eq_nil_iff.mpr fun event hmem => ?_
  have hnone := hnone event hmem
  cases event with
  | answered request unix_seconds milliseconds => exact absurd rfl (hnone _ _ _)
  | _ => rfl

theorem recent_of_traced {before : List Event} {newer : GnssDateTime} {at_ms age_ms : Nat}
    {unix_seconds : UInt32} {milliseconds : UInt16}
    (haccepted : lastAccepted before = some (newer, at_ms)) (haged : Aged before at_ms age_ms)
    (hanswers : Answers newer age_ms unix_seconds milliseconds) :
    Recent before unix_seconds milliseconds := by
  obtain ⟨⟨now_ms, hasked, rfl⟩, hfresh⟩ := haged
  have hmod := Nat.mod_le at_ms (2 ^ 32)
  exact ⟨newer, at_ms, now_ms, haccepted, hasked, by omega, hanswers.total⟩

theorem answered_once {w₀ w : Gnss F} (ht0 : t0 < 2 ^ 32)
    (hbounds : time.unix_seconds.toNat + 4 < 2 ^ 32 ∧ time.milliseconds.toNat ≤ 999)
    (traced : Traced [] w₀) (kept : Kept t0 w₀) (hwait : w₀.response.point = .Wait)
    (run : Machine.Run ((logged f).startingIn w₀) (Undisturbed time t0) past w) :
    AnsweredOnce f time t0 w₀.response.last_response past w := by
  have booked := booked_run ht0 hbounds traced kept hwait run
  refine ⟨?_, booked_wait booked, ?_, ?_⟩
  · intro before after request unix_seconds milliseconds hpast
    exact answered_exact ht0 traced run hpast
  · intro request n hpolled hlast hrest
    rw [booked_wait booked hrest, hpolled, due_replicate _ _ _ hlast]
  · intro now_ms hwithin
    obtain ⟨k, w', later, hexec, run', hrest, hnothing⟩ :=
      comes_to_rest traced run hwithin (Nat.le_refl _)
    have hanswered := booked_wait (booked_run ht0 hbounds traced kept hwait run') hrest
    rw [polled_append, hnothing, List.append_nil] at hanswered
    exact ⟨k, w', later, hexec, hrest, hanswered⟩

end Window

theorem times_answered_below_2_32 {w₀ : Gnss F} {time : GnssDateTime} {t0 : Nat}
    (run₀ : Machine.Run (logged f) OneCore past w₀) (hpoint : w₀.parser = .StoreSeconds time t0) :
    (t0 < 2 ^ 32 → ∀ later w,
        Machine.Run ((logged f).startingIn w₀) (Undisturbed time t0) later w →
          AnsweredOnce f time t0 w₀.response.last_response later w) ∧
      (2 ^ 32 ≤ t0 → ∀ later w,
        Machine.Run ((logged f).startingIn w₀) (Undisturbed time t0) later w →
          answered later = []) ∧
      (∀ past w, Machine.Run (logged f) OneCore past w →
        ∀ before after request unix_seconds milliseconds,
          past = before ++ .answered request unix_seconds milliseconds :: after →
            Recent before unix_seconds milliseconds) ∧
      (w₀.manager.is_on = true → ∀ later w,
        Machine.Run ((logged f).startingIn w₀) (fun _ a => a ≠ .receive .TurnOff) later w →
          clears w.manager.point = false) := by
  have run' : Machine.Run ((logged f).startingIn Gnss.start) OneCore past w₀ := run₀
  have hwait : w₀.response.point = .Wait := by
    rcases (traced_run traced_start run').apart with hresting | hawaiting
    · exact point_of_resting hresting
    · rw [hpoint] at hawaiting
      cases hawaiting
  have traced : Traced [] w₀ := by
    refine ⟨.inl (by rw [hwait]; rfl), ?_, ?_⟩
    · rw [hpoint]
      trivial
    · rw [hwait]
      trivial
  have kept : Kept t0 w₀ := by
    refine ⟨?_, ?_, ?_⟩
    · rw [hpoint]
      nofun
    · rw [hpoint]
      trivial
    · rw [hwait]
      nofun
  have hstart : Accepts (Gnss.start : Gnss F).parser := trivial
  have haccepts := accepts_run hstart run'
  rw [hpoint] at haccepts
  obtain ⟨sentence, htime⟩ := haccepts
  refine ⟨?_, ?_, ?_, ?_⟩
  · intro ht0 later w run
    exact answered_once ht0 (RmcGrammar.parsed_bounds htime) traced kept hwait run
  · intro ht0 later w run
    exact none_answered ht0 traced run
  · intro past w run before after request unix_seconds milliseconds hpast
    have run' : Machine.Run ((logged f).startingIn Gnss.start) OneCore past w := run
    obtain ⟨newer, at_ms, age_ms, haccepted, haged, hanswers⟩ :=
      answered_traced traced_start run' hpast
    exact recent_of_traced haccepted haged hanswers
  · intro hon later w run
    have observed : Machine.Run ((machine f).observed look) OneCore past w₀ := run₀
    obtain ⟨past', run'⟩ := observed.of_observed
    obtain ⟨consistent, hon⟩ := stays_on (consistent_run run') hon run
    exact not_clears consistent hon

/-! ## A poll 100 ms later -/

section Decided

variable {time : GnssDateTime} {t0 : Nat}

instance instDecidableWithin (now_ms : Nat) : Decidable (Within t0 now_ms) :=
  inferInstanceAs (Decidable (_ ∧ _))

instance instDecidableFits : (event : Event) → Decidable (Fits time t0 event)
  | .accepted _ _ => inferInstanceAs (Decidable (_ ∧ _))
  | .asked now_ms => inferInstanceAs (Decidable (Within t0 now_ms))
  | .polled _ | .answered _ _ _ => .isTrue trivial

instance instDecidableCalm (w : Gnss F) : (a : Gnss.Action) → Decidable (Calm t0 w a)
  | .manager _ => inferInstanceAs (Decidable (_ = _))
  | .tick now_ms => inferInstanceAs (Decidable (Within t0 now_ms))
  | .response _ room =>
    match h : w.response.point with
    | .Send _ _ _ => decidable_of_iff (room = true) (by rw [Calm, h])
    | .Wait | .LoadValid _ | .LoadUpdated _ _ | .LoadSeconds _ _ | .LoadMilliseconds _ _ _
    | .StoreInvalid => .isTrue (by rw [Calm, h]; trivial)
  | .read _ _ | .receive _ | .configured _ | .receive_sentence | .parser _ | .poll _ => .isTrue trivial

instance instDecidableUndisturbed (w : Gnss F) (a : Gnss.Action) :
    Decidable (Undisturbed time t0 w a) :=
  decidable_of_iff (OneCore w a ∧ (∀ event ∈ look w a, Fits time t0 event) ∧ Calm t0 w a)
    ⟨fun h => ⟨h.1, h.2.1, h.2.2⟩, fun h => ⟨h.one_core, h.fits, h.calm⟩⟩

end Decided

/-- The time of `rmcLine`. -/
def august : GnssDateTime := { unix_seconds := 1787488519, milliseconds := 250 }

def beginsAt (t0 : Nat) (point : ParserPoint Nat) : Bool :=
  match point with
  | .StoreSeconds time at_ms => time = august ∧ at_ms = t0
  | _ => false

theorem beginsAt_iff {t0 : Nat} {point : ParserPoint Nat} (h : beginsAt t0 point = true) :
    point = .StoreSeconds august t0 := by
  cases point <;> simp_all [beginsAt]

/-- The line is accepted at `t0`. -/
def accept (t0 : Nat) : List Gnss.Action :=
  turnOn ++ line GnssTimeOff.rmcLine ++ [.parser t0]

def serve (t0 steps : Nat) : List Gnss.Action :=
  List.replicate 4 (.parser t0) ++ .poll (some (7, t0)) ::
    List.replicate steps (.response (t0 + 100) true)

/-- The request 7 is polled, and these are the answers. -/
def served (t0 steps : Nat) (answers : List (UInt8 × Nat)) (w₀ : Gnss Nat) : Bool :=
  ((((logged atReference).startingIn w₀).checked fun w a =>
    decide (Undisturbed august t0 w a)).exec w₀ (serve t0 steps)).any fun r =>
      resting r.1.response.point ∧ polled r.2 = [(7, t0)] ∧ answered r.2 = answers

theorem exists_served (t0 steps : Nat) (answers : List (UInt8 × Nat))
    (h : (((logged atReference).checked fun w a => decide (OneCore w a)).exec Gnss.start
      (accept t0)).any fun r => beginsAt t0 r.1.parser ∧ r.1.response.last_response = none ∧
        served t0 steps answers r.1) :
    ∃ past w₀ later w, Machine.Run (logged atReference) OneCore past w₀ ∧
      w₀.parser = .StoreSeconds august t0 ∧ w₀.response.last_response = none ∧
        Machine.Run ((logged atReference).startingIn w₀) (Undisturbed august t0) later w ∧
          w.response.point = .Wait ∧ polled later = [(7, t0)] ∧ answered later = answers := by
  obtain ⟨past, w₀, run₀, hbegins, hlast, hserved⟩ :=
    Machine.exists_checked_run (fun (w : Gnss Nat) _ => beginsAt t0 w.parser ∧
      w.response.last_response = none ∧ served t0 steps answers w) (accept t0) rfl h
  obtain ⟨later, w, run, hresting, hpolled, hanswered⟩ :=
    Machine.exists_checked_run (fun (w : Gnss Nat) later => resting w.response.point ∧
      polled later = [(7, t0)] ∧ answered later = answers) (serve t0 steps) rfl hserved
  exact ⟨past, w₀, later, w, run₀, beginsAt_iff hbegins, hlast, run, point_of_resting hresting,
    hpolled, hanswered⟩

theorem times_answered_below_2_32_early : ∃ past w₀ later w,
    Machine.Run (logged atReference) OneCore past w₀ ∧ w₀.parser = .StoreSeconds august 1000 ∧
      Machine.Run ((logged atReference).startingIn w₀) (Undisturbed august 1000) later w ∧
        polled later = [(7, 1000)] ∧ answered later = [(7, 1000)] := by
  obtain ⟨past, w₀, later, w, run₀, hpoint, hlast, run, hwait, hpolled, -⟩ :=
    exists_served 1000 5 [(7, 1000)] (by decide +kernel)
  obtain ⟨hbelow, -⟩ := times_answered_below_2_32 run₀ hpoint
  have honce := (hbelow (by decide) later w run).once (7, 1000) 0 hpolled (by rw [hlast]; nofun) hwait
  exact ⟨past, w₀, later, w, run₀, hpoint, run, hpolled, honce⟩

/-- After 49.7 days the same poll is left without an answer. -/
theorem time_unanswered_at_2_32 :
    ¬ ∀ (past : List Event) (w₀ : Gnss Nat) (time : GnssDateTime) (t0 : Nat),
      Machine.Run (logged atReference) OneCore past w₀ → w₀.parser = .StoreSeconds time t0 →
        ∀ later w, Machine.Run ((logged atReference).startingIn w₀) (Undisturbed time t0) later w →
          w.response.point = .Wait →
            answered later = due w₀.response.last_response (polled later) := by
  intro hclaim
  obtain ⟨past, w₀, later, w, run₀, hpoint, hlast, run, hwait, hpolled, hanswered⟩ :=
    exists_served (2 ^ 32) 3 [] (by decide +kernel)
  have h := hclaim past w₀ august (2 ^ 32) run₀ hpoint later w run hwait
  rw [hanswered, hlast, hpolled] at h
  cases h

end Comboard.TimeResponse

