import Comboard.Code.Gnss

/-!
# The position goes with the receiver state

Only the manager leaves `Off` and `ConfigurationFailed`. So what it finds when the receiver starts is a
code, and it may stay.
-/

namespace Comboard.GnssState

open Lib Gnss

variable {F : Type} {f : GnssFunctions F}

/-! ## The codes of a state -/

def position (t : GnssReceiver) : UInt16 × UInt16 × UInt16 := (t.east, t.north, t.height)

def unavailable : UInt16 × UInt16 × UInt16 :=
  (GNSS_COORDINATE_UNAVAILABLE, GNSS_COORDINATE_UNAVAILABLE, GNSS_HEIGHT_UNAVAILABLE)

def receiverError : UInt16 × UInt16 × UInt16 :=
  (GNSS_COORDINATE_RECEIVER_ERROR, GNSS_COORDINATE_RECEIVER_ERROR, GNSS_HEIGHT_RECEIVER_ERROR)

/-- The position that a state may stand with. -/
def Agrees (f : GnssFunctions F) (t : GnssReceiver) : Prop :=
  match t.state with
  | .Off => position t = unavailable
  | .Starting | .ReceiverDetected => position t = unavailable ∨ position t = receiverError
  | .ConfigurationFailed | .ReceiverError => position t = receiverError
  | .NoFix => position t = (GNSS_COORDINATE_NO_FIX, GNSS_COORDINATE_NO_FIX, GNSS_HEIGHT_NO_FIX)
  | .InvalidSample =>
    position t = (GNSS_COORDINATE_INVALID, GNSS_COORDINATE_INVALID, GNSS_HEIGHT_INVALID)
  | .Stale => position t = (GNSS_COORDINATE_STALE, GNSS_COORDINATE_STALE, GNSS_HEIGHT_STALE)
  | .ValidFix => ∃ latitude longitude altitude,
    let encoded := f.encode_position latitude longitude altitude
    position t = (encoded.east, encoded.north, encoded.height)

/-- No number, but a code. -/
def Reserved (position : UInt16 × UInt16 × UInt16) : Prop :=
  (0x8000 ≤ position.1 ∧ position.1 ≤ 0x8005) ∧ (0x8000 ≤ position.2.1 ∧ position.2.1 ≤ 0x8005) ∧
    496 ≤ position.2.2 ∧ position.2.2 ≤ 501

instance instDecidableReserved (position : UInt16 × UInt16 × UInt16) : Decidable (Reserved position) :=
  inferInstanceAs (Decidable ((_ ∧ _) ∧ (_ ∧ _) ∧ _ ∧ _))

theorem Agrees.reserved {t : GnssReceiver} (agrees : Agrees f t) (h : t.state ≠ .ValidFix) :
    Reserved (position t) := by
  unfold Agrees at agrees
  split at agrees
  case h_9 hstate => exact absurd hstate h
  case h_2 | h_3 => rcases agrees with hposition | hposition <;> rw [hposition] <;> decide
  all_goals rw [agrees]; decide

/-! ## The lock sections -/

/-- The states that only the manager leaves. -/
def quiet (state : GnssReceiverState) : Bool := state = .Off ∨ state = .ConfigurationFailed

/-- What the other sections do to the state. -/
structure Keeps (t t' : GnssReceiver) : Prop where
  quiet : quiet t.state = true → t'.state = t.state
  off : t'.state = .Off → t.state = .Off

theorem Keeps.refl (t : GnssReceiver) : Keeps t t := ⟨fun _ => rfl, id⟩

theorem keeps_of_left {t t' : GnssReceiver} (hleft : left_alone t.state = false)
    (hoff : t'.state ≠ .Off) : Keeps t t' := by
  refine ⟨fun hquiet => ?_, fun h => absurd h hoff⟩
  cases hstate : t.state <;> simp [hstate, left_alone, quiet] at hleft hquiet

theorem detect_keeps (t : GnssReceiver) (now_ms : Nat) : Keeps t (detect t now_ms) := by
  unfold detect
  refine ⟨fun hquiet => if_neg ?_, fun hoff => ?_⟩
  · rintro (hstate | hstate) <;> simp [hstate, quiet] at hquiet
  · dsimp only at hoff
    split at hoff
    · cases hoff
    · exact hoff

theorem detect_agrees {t : GnssReceiver} (agrees : Agrees f t) (now_ms : Nat) :
    Agrees f (detect t now_ms) := by
  unfold detect
  by_cases hlost : t.state = .Starting ∨ t.state = .ReceiverError
  · rw [if_pos hlost]
    rcases hlost with hstate | hstate <;> simp only [Agrees, hstate] at agrees
    · exact agrees
    · exact .inr agrees
  · rw [if_neg hlost]
    exact agrees

theorem start_agrees {t : GnssReceiver} (agrees : Agrees f t) (hquiet : quiet t.state = true)
    (now_ms : Nat) : Agrees f (set_receiver_state t .Starting now_ms) := by
  have hposition : position t = unavailable ∨ position t = receiverError := by
    cases hstate : t.state <;> simp [hstate, quiet] at hquiet <;>
      simp only [Agrees, hstate] at agrees
    · exact .inl agrees
    · exact .inr agrees
  exact hposition

theorem fail_agrees (t : GnssReceiver) (now_ms : Nat) :
    Agrees f (set_receiver_state t .ConfigurationFailed now_ms) := rfl

theorem no_fix_keeps {t : GnssReceiver} (hleft : left_alone t.state = false) : Keeps t (no_fix t) :=
  keeps_of_left hleft nofun

theorem apply_position_keeps (t : GnssReceiver) (now_ms : Nat)
    (parsed : Except GgaParseError (GgaData F)) : Keeps t (apply_position f t now_ms parsed) := by
  unfold apply_position
  split <;> rename_i hleft
  · exact .refl t
  · have hleft : left_alone t.state = false := by simpa using hleft
    split
    · split
      · split
        · exact keeps_of_left hleft nofun
        · exact no_fix_keeps hleft
      · exact no_fix_keeps hleft
    · exact keeps_of_left hleft nofun

theorem apply_position_agrees {t : GnssReceiver} (agrees : Agrees f t) (now_ms : Nat)
    (parsed : Except GgaParseError (GgaData F)) : Agrees f (apply_position f t now_ms parsed) := by
  unfold apply_position
  split
  · exact agrees
  · split
    · split
      · split
        · exact ⟨_, _, _, rfl⟩
        · rfl
      · rfl
    · rfl

/-- The ticker leaves the telemetry as it is, or gives up on what the receiver last said. -/
theorem tick_cases (t : GnssReceiver) (now_ms : Nat) :
    tick_telemetry t now_ms = t ∨ quiet t.state = false ∧
      (tick_telemetry t now_ms = t.receiver_error .ReceiverError ∨
        tick_telemetry t now_ms = t.stale) := by
  unfold tick_telemetry
  cases t.state
  case Starting | ReceiverDetected | NoFix | InvalidSample | ValidFix =>
    dsimp only
    split
    · exact .inr ⟨rfl, by simp⟩
    · exact .inl rfl
  all_goals exact .inl rfl

theorem tick_keeps (t : GnssReceiver) (now_ms : Nat) : Keeps t (tick_telemetry t now_ms) := by
  rcases tick_cases t now_ms with hsame | ⟨hquiet, hafter⟩
  · rw [hsame]
    exact .refl t
  · refine ⟨fun h => by simp [hquiet] at h, fun hoff => ?_⟩
    rcases hafter with hafter | hafter <;> rw [hafter] at hoff <;> cases hoff

theorem tick_agrees {t : GnssReceiver} (agrees : Agrees f t) (now_ms : Nat) :
    Agrees f (tick_telemetry t now_ms) := by
  rcases tick_cases t now_ms with hsame | ⟨-, hafter | hafter⟩
  · rwa [hsame]
  · rw [hafter]
    rfl
  · rw [hafter]
    rfl

/-! ## Where the manager is -/

/-- What the manager can rely on. -/
def Held (m : Manager) (state : GnssReceiverState) : Prop :=
  match m.point with
  | .Select | .Detect _ _ _ | .Send _ _ => m.is_on = false → quiet state = true
  | .OnTime | .Start => m.is_on = false ∧ quiet state = true
  | .Configure | .FailTime | .Fail => m.is_on = false ∧ state ≠ .Off
  | .OffTime | .Off => m.is_on = false
  | .Drain => m.is_on = false ∧ state = .Off

theorem Held.keeps {m : Manager} {t t' : GnssReceiver} (held : Held m t.state) (h : Keeps t t') :
    Held m t'.state := by
  have hquiet (hq : quiet t.state = true) : quiet t'.state = true := by rwa [h.quiet hq]
  unfold Held at held ⊢
  split <;> rename_i hpoint <;> simp only [hpoint] at held
  · exact fun hon => hquiet (held hon)
  · exact fun hon => hquiet (held hon)
  · exact fun hon => hquiet (held hon)
  · exact ⟨held.1, hquiet held.2⟩
  · exact ⟨held.1, hquiet held.2⟩
  · exact ⟨held.1, fun hoff => held.2 (h.off hoff)⟩
  · exact ⟨held.1, fun hoff => held.2 (h.off hoff)⟩
  · exact ⟨held.1, fun hoff => held.2 (h.off hoff)⟩
  · exact held
  · exact held
  · exact ⟨held.1, (h.quiet (by rw [held.2]; rfl)).trans held.2⟩

structure Consistent (f : GnssFunctions F) (w : Gnss F) : Prop where
  agrees : Agrees f w.shared.telemetry
  held : Held w.manager w.shared.telemetry.state

/-! ## The steps, case by case -/

/-- What the manager does where it goes on. -/
inductive ManagerStep (w : Gnss F) (now_ms : Nat) : Gnss F → List Gnss.Report → Prop where
  | detect {seen_ms : Nat} {sentence : GnssPacket} {rest : List UInt8}
      (hpoint : w.manager.point = .Detect seen_ms sentence rest) :
      ManagerStep w now_ms
        ((w.set_telemetry (detect w.shared.telemetry seen_ms)).manager_at (.Send sentence rest)) []
  | send {sentence : GnssPacket} {rest : List UInt8} {gnss_channel : Channel GnssPacket 5}
      (hpoint : w.manager.point = .Send sentence rest) :
      ManagerStep w now_ms
        ({ w with shared := { w.shared with gnss_channel } }.step_letters rest now_ms) []
  | on_time (hpoint : w.manager.point = .OnTime) :
      ManagerStep w now_ms ((w.set_valid false).manager_at .Start) []
  | start (hpoint : w.manager.point = .Start) :
      ManagerStep w now_ms ((w.set_telemetry
        (set_receiver_state w.shared.telemetry .Starting now_ms)).manager_at .Configure) []
  | fail_time (hpoint : w.manager.point = .FailTime) :
      ManagerStep w now_ms ((w.set_valid false).manager_at .Fail) []
  | fail (hpoint : w.manager.point = .Fail) :
      ManagerStep w now_ms ((w.set_telemetry
        (set_receiver_state w.shared.telemetry .ConfigurationFailed now_ms)).manager_at .Select) []
  | off_time (hpoint : w.manager.point = .OffTime) :
      ManagerStep w now_ms ((w.set_valid false).manager_at .Off) []
  | off (hpoint : w.manager.point = .Off) :
      ManagerStep w now_ms ((w.set_telemetry (w.shared.telemetry.set_position .Off
        GNSS_COORDINATE_UNAVAILABLE GNSS_COORDINATE_UNAVAILABLE
          GNSS_HEIGHT_UNAVAILABLE)).manager_at .Drain) []
  | drain {gnss_channel : Channel GnssPacket 5} (hpoint : w.manager.point = .Drain) :
      ManagerStep w now_ms { w with shared := { w.shared with gnss_channel } } []
  | drained (hpoint : w.manager.point = .Drain)
      (hempty : w.shared.gnss_channel.try_receive = none) :
      ManagerStep w now_ms (w.manager_at .Select) [.turned_off]

theorem manager_step {w w' : Gnss F} {now_ms : Nat} {reports : List Gnss.Report}
    (h : w.step_manager now_ms = some (w', reports)) : ManagerStep w now_ms w' reports := by
  unfold step_manager at h
  dsimp only at h
  split at h <;> rename_i hpoint
  · cases h
  · cases h
  · obtain ⟨rfl, rfl⟩ := Prod.mk.inj (Option.some.inj h)
    exact .detect hpoint
  · obtain ⟨rfl, rfl⟩ := Prod.mk.inj (Option.some.inj h)
    exact .send hpoint
  · obtain ⟨rfl, rfl⟩ := Prod.mk.inj (Option.some.inj h)
    exact .on_time hpoint
  · obtain ⟨rfl, rfl⟩ := Prod.mk.inj (Option.some.inj h)
    exact .start hpoint
  · obtain ⟨rfl, rfl⟩ := Prod.mk.inj (Option.some.inj h)
    exact .fail_time hpoint
  · obtain ⟨rfl, rfl⟩ := Prod.mk.inj (Option.some.inj h)
    exact .fail hpoint
  · obtain ⟨rfl, rfl⟩ := Prod.mk.inj (Option.some.inj h)
    exact .off_time hpoint
  · obtain ⟨rfl, rfl⟩ := Prod.mk.inj (Option.some.inj h)
    exact .off hpoint
  · split at h <;> rename_i hnext <;> obtain ⟨rfl, rfl⟩ := Prod.mk.inj (Option.some.inj h)
    · exact .drain hpoint
    · exact .drained hpoint hnext

/-- What the tasks on the other core do to the telemetry and the manager. -/
structure Elsewhere (f : GnssFunctions F) (w w' : Gnss F) : Prop where
  manager : w'.manager = w.manager
  keeps : Keeps w.shared.telemetry w'.shared.telemetry
  agrees : Agrees f w.shared.telemetry → Agrees f w'.shared.telemetry

theorem elsewhere_of_same {w w' : Gnss F} (hmanager : w'.manager = w.manager)
    (htelemetry : w'.shared.telemetry = w.shared.telemetry) : Elsewhere f w w' :=
  ⟨hmanager, by rw [htelemetry]; exact .refl _, by rw [htelemetry]; exact id⟩

/-- What a step of the parser is for the others. -/
inductive ParseStep (f : GnssFunctions F) (w w' : Gnss F) : Prop where
  | keeps (elsewhere : Elsewhere f w w') (hresponse : w'.response = w.response)
      (hvalid : w'.shared.gnss_time_valid = w.shared.gnss_time_valid)
  | raises (elsewhere : Elsewhere f w w') (hpoint : w.parser = .StoreValid)
  | lowers (elsewhere : Elsewhere f w w') (hresponse : w'.response = w.response)
      (hvalid : w'.shared.gnss_time_valid = false)

theorem parse_step {w w' : Gnss F} {now_ms : Nat} (h : step_parse f w now_ms = some w') :
    ParseStep f w w' := by
  unfold step_parse at h
  dsimp only at h
  split at h
  case h_1 => cases h
  case h_6 hpoint =>
    obtain rfl := Option.some.inj h
    exact .raises (elsewhere_of_same rfl rfl) hpoint
  case h_7 =>
    obtain rfl := Option.some.inj h
    exact .keeps ⟨rfl, apply_position_keeps _ _ _, fun agrees => apply_position_agrees agrees _ _⟩
      rfl rfl
  case h_8 =>
    obtain rfl := Option.some.inj h
    exact .keeps ⟨rfl, tick_keeps _ _, fun agrees => tick_agrees agrees _⟩ rfl rfl
  case h_11 =>
    obtain rfl := Option.some.inj h
    exact .lowers (elsewhere_of_same rfl rfl) rfl rfl
  all_goals
    obtain rfl := Option.some.inj h
    exact .keeps (elsewhere_of_same rfl rfl) rfl rfl

theorem ParseStep.elsewhere {w w' : Gnss F} (h : ParseStep f w w') : Elsewhere f w w' := by
  cases h <;> assumption

/-- What a step of the response task is for the others. -/
theorem response_elsewhere {w w' : Gnss F} {now_ms : Nat} {room : Bool}
    {reports : List Gnss.Report} (h : w.step_response now_ms room = some (w', reports)) :
    Elsewhere f w w' := by
  unfold step_response at h
  split at h
  case h_1 => cases h
  case h_6 =>
    split at h <;> obtain ⟨rfl, -⟩ := Prod.mk.inj (Option.some.inj h) <;>
      exact elsewhere_of_same rfl rfl
  all_goals
    obtain ⟨rfl, -⟩ := Prod.mk.inj (Option.some.inj h)
    exact elsewhere_of_same rfl rfl

/-- Which task has made a step. -/
inductive Stepped (f : GnssFunctions F) (w : Gnss F) :
    Gnss.Action → Gnss F → List Gnss.Report → Prop where
  | read {bytes : List UInt8} {now_ms : Nat} (hpoint : w.manager.point = .Select) :
      Stepped f w (.read bytes now_ms) (w.step_letters bytes now_ms) []
  | receive {command : GnssCommand} (hpoint : w.manager.point = .Select) :
      Stepped f w (.receive command) (w.step_command command).1 (w.step_command command).2
  | configured {configuration : Configuration} (hpoint : w.manager.point = .Configure) :
      Stepped f w (.configured configuration) (w.step_configured configuration) []
  | manager {now_ms : Nat} {w' : Gnss F} {reports : List Gnss.Report}
      (h : ManagerStep w now_ms w' reports) : Stepped f w (.manager now_ms) w' reports
  | receive_sentence {sentence : GnssPacket} {gnss_channel : Channel GnssPacket 5} :
      Stepped f w .receive_sentence
        { w with shared := { w.shared with gnss_channel }, parser := .Check sentence } []
  | tick {now_ms : Nat} : Stepped f w (.tick now_ms) (w.parser_at (.Tick now_ms)) []
  | parser {now_ms : Nat} {w' : Gnss F} (h : ParseStep f w w')
      (hstep : step_parse f w now_ms = some w') : Stepped f w (.parser now_ms) w' []
  | poll {request : Option (UInt8 × Nat)} : Stepped f w (.poll request) (w.step_poll request) []
  | response {now_ms : Nat} {room : Bool} {w' : Gnss F} {reports : List Gnss.Report}
      (h : w.step_response now_ms room = some (w', reports)) :
      Stepped f w (.response now_ms room) w' reports

theorem stepped {w w' : Gnss F} {a : Gnss.Action} {reports : List Gnss.Report}
    (h : (machine f).step w a = some (w', reports)) : Stepped f w a w' reports := by
  cases a with
  | manager now_ms => exact .manager (manager_step h)
  | response now_ms room => exact .response h
  | parser now_ms =>
    obtain ⟨v, hparse, h⟩ := Option.map_eq_some_iff.mp h
    obtain ⟨rfl, rfl⟩ := Prod.mk.inj h
    exact .parser (parse_step hparse) hparse
  | receive_sentence =>
    simp only [machine, Gnss.step] at h
    split at h
    · obtain ⟨_, -, h⟩ := Option.map_eq_some_iff.mp h
      obtain ⟨rfl, rfl⟩ := Prod.mk.inj h
      exact .receive_sentence
    · cases h
  | read bytes now_ms =>
    simp only [machine, Gnss.step] at h
    split at h <;> rename_i hpoint
    · obtain ⟨rfl, rfl⟩ := Prod.mk.inj (Option.some.inj h)
      exact .read hpoint
    · cases h
  | receive command =>
    simp only [machine, Gnss.step] at h
    split at h <;> rename_i hpoint
    · obtain ⟨rfl, rfl⟩ := Prod.mk.inj (Option.some.inj h)
      exact .receive hpoint
    · cases h
  | configured configuration =>
    simp only [machine, Gnss.step] at h
    split at h <;> rename_i hpoint
    · obtain ⟨rfl, rfl⟩ := Prod.mk.inj (Option.some.inj h)
      exact .configured hpoint
    · cases h
  | tick now_ms =>
    simp only [machine, Gnss.step] at h
    split at h
    · obtain ⟨rfl, rfl⟩ := Prod.mk.inj (Option.some.inj h)
      exact .tick
    · cases h
  | poll request =>
    simp only [machine, Gnss.step] at h
    split at h
    · obtain ⟨rfl, rfl⟩ := Prod.mk.inj (Option.some.inj h)
      exact .poll
    · cases h

/-! ## Every step -/

theorem consistent_letters {w : Gnss F} (agrees : Agrees f w.shared.telemetry)
    (hidle : w.manager.is_on = false → quiet w.shared.telemetry.state = true)
    (letters : List UInt8) (now_ms : Nat) : Consistent f (w.step_letters letters now_ms) := by
  unfold step_letters
  dsimp only
  split <;> exact ⟨agrees, hidle⟩

theorem consistent_command {w : Gnss F} (consistent : Consistent f w)
    (hpoint : w.manager.point = .Select) (command : GnssCommand) :
    Consistent f (w.step_command command).1 := by
  obtain ⟨agrees, held⟩ := consistent
  cases command with
  | TurnOn =>
    unfold step_command
    cases hon : w.manager.is_on with
    | true => exact ⟨agrees, held⟩
    | false =>
      simp only [Held, hpoint] at held
      exact ⟨agrees, hon, held hon⟩
  | TurnOff => exact ⟨agrees, rfl⟩

theorem consistent_configured {w : Gnss F} (consistent : Consistent f w)
    (hpoint : w.manager.point = .Configure) (configuration : Configuration) :
    Consistent f (w.step_configured configuration) := by
  obtain ⟨agrees, held⟩ := consistent
  simp only [Held, hpoint] at held
  cases configuration with
  | done => exact ⟨agrees, nofun⟩
  | _ => exact ⟨agrees, held⟩

theorem consistent_manager {w w' : Gnss F} {now_ms : Nat} {reports : List Gnss.Report}
    (consistent : Consistent f w) (h : ManagerStep w now_ms w' reports) : Consistent f w' := by
  obtain ⟨agrees, held⟩ := consistent
  cases h with
  | @detect seen_ms _ _ hpoint =>
    simp only [Held, hpoint] at held
    refine ⟨detect_agrees agrees _, fun hoff => ?_⟩
    have hquiet := held hoff
    rwa [← (detect_keeps w.shared.telemetry seen_ms).quiet hquiet] at hquiet
  | send hpoint =>
    simp only [Held, hpoint] at held
    apply consistent_letters
    · exact agrees
    · exact held
  | on_time hpoint | fail_time hpoint | off_time hpoint =>
    simp only [Held, hpoint] at held
    exact ⟨agrees, held⟩
  | start hpoint =>
    simp only [Held, hpoint] at held
    exact ⟨start_agrees agrees held.2 _, held.1, nofun⟩
  | fail => exact ⟨fail_agrees _ _, fun _ => rfl⟩
  | off hpoint =>
    simp only [Held, hpoint] at held
    exact ⟨rfl, held, rfl⟩
  | drain => exact ⟨agrees, held⟩
  | drained hpoint =>
    simp only [Held, hpoint] at held
    have hquiet : quiet w.shared.telemetry.state = true := by
      rw [held.2]
      rfl
    exact ⟨agrees, fun _ => hquiet⟩

theorem Elsewhere.consistent {w w' : Gnss F} (h : Elsewhere f w w') (consistent : Consistent f w) :
    Consistent f w' :=
  ⟨h.agrees consistent.agrees, by rw [h.manager]; exact consistent.held.keeps h.keeps⟩

theorem poll_elsewhere (w : Gnss F) (request : Option (UInt8 × Nat)) :
    Elsewhere f w (w.step_poll request) := by
  unfold step_poll
  split
  · exact elsewhere_of_same rfl rfl
  · split <;> exact elsewhere_of_same rfl rfl

theorem consistent_step {w w' : Gnss F} {a : Gnss.Action} {reports : List Gnss.Report}
    (consistent : Consistent f w) (h : (machine f).step w a = some (w', reports)) :
    Consistent f w' := by
  cases stepped h with
  | read hpoint =>
    have hidle := consistent.held
    simp only [Held, hpoint] at hidle
    exact consistent_letters consistent.agrees hidle _ _
  | receive hpoint => exact consistent_command consistent hpoint _
  | configured hpoint => exact consistent_configured consistent hpoint _
  | manager hmanager => exact consistent_manager consistent hmanager
  | receive_sentence => exact ⟨consistent.agrees, consistent.held⟩
  | tick => exact ⟨consistent.agrees, consistent.held⟩
  | parser hparse => exact hparse.elsewhere.consistent consistent
  | poll => exact (poll_elsewhere w _).consistent consistent
  | response hresponse => exact (response_elsewhere hresponse).consistent consistent

theorem consistent_run {ok : Gnss F → Gnss.Action → Prop} {past : List Gnss.Report} {w : Gnss F}
    (run : Machine.Run (machine f) ok past w) : Consistent f w := by
  refine run.always (I := Consistent f) ?_ fun _ _ _ _ consistent _ h => consistent_step consistent h
  rintro _ rfl
  exact ⟨rfl, fun _ => rfl⟩

/-! ## Every run -/

/-- A position that is no code is one of `ValidFix`. -/
theorem position_agrees_with_state {past : List Gnss.Report} {w : Gnss F}
    (run : Machine.Run (machine f) Machine.anyStep past w) :
    Agrees f w.shared.telemetry ∧
      (w.shared.telemetry.state ≠ .ValidFix → Reserved (position w.shared.telemetry)) := by
  have agrees := (consistent_run run).agrees
  exact ⟨agrees, agrees.reserved⟩

/-! ## A fix at the reference point -/

/-- A GGA sentence and the end of its line. -/
def ggaLine : List UInt8 :=
  "$GNGGA,123519,4014.5719,N,14000.627,E,1,08,0.9,100.0,M,46.9,M,,*67\r\n".toUTF8.toList

/-- What the parser makes of it: the reference point, at 100 metres. -/
def atReference : GnssFunctions Nat where
  parse_gga _ := .ok
    { latitude := some 402428650
      longitude := some 1400104500
      fix_quality := .Gps
      altitude := some 100 }
  encode_position _ _ _ := { east := 0, north := 0, height := 40 }

/-- The receiver is switched on. -/
def turnOn : List Gnss.Action := [.receive .TurnOn, .manager 0, .manager 0, .configured .done]

/-- A line gets to the parser. -/
def line (letters : List UInt8) : List Gnss.Action :=
  [.read letters 1000, .manager 1000, .manager 1000, .receive_sentence]

theorem position_agrees_with_state_fix : ∃ past w,
    Machine.Run (machine atReference) Machine.anyStep past w ∧
      w.shared.telemetry.state = .ValidFix ∧ position w.shared.telemetry = (0, 0, 40) := by
  obtain ⟨past, w, run, hstate⟩ : ∃ past w,
      Machine.Run (machine atReference) Machine.anyStep past w ∧
        w.shared.telemetry.state = .ValidFix :=
    Machine.exists_run (fun (w : Gnss Nat) _ => w.shared.telemetry.state = .ValidFix)
      (turnOn ++ line ggaLine ++ [.parser 1000, .parser 1000]) rfl (fun _ _ _ => trivial)
      (by decide +kernel)
  obtain ⟨agrees, -⟩ := position_agrees_with_state run
  rw [Agrees, hstate] at agrees
  obtain ⟨_, _, _, hposition⟩ := agrees
  exact ⟨past, w, run, hstate, hposition⟩

end Comboard.GnssState
