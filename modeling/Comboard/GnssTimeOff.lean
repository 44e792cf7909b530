import Comboard.GnssState

/-!
# The time of a receiver that is off

The parser looks at the receiver state once, before the first of the four stores of an RMC sentence. A
GGA sentence is checked again under the lock.
-/

namespace Comboard.GnssTimeOff

open Lib Gnss GnssState

variable {F : Type} {f : GnssFunctions F}

/-! ## Off and late -/

def follow : Bool → Gnss.Report → Bool
  | _, .turned_off => true
  | _, .turn_on => false
  | off, .answered _ _ _ => off

/-- `TurnOff` has been handled, and no `TurnOn` has begun since. -/
def off (past : List Gnss.Report) : Bool := past.foldl follow false

/-- `TurnOff` has cleared `GNSS_TIME_VALID`, and no `TurnOn` has begun since. -/
def late (w : Gnss F) : Bool :=
  match w.manager.point with
  | .Select | .Detect _ _ _ | .Send _ _ | .OffTime => w.shared.telemetry.state = .Off
  | .OnTime | .Start | .Configure | .FailTime | .Fail => false
  | .Off | .Drain => true

/-- The stores of an RMC sentence have begun, or will without another look at the state. -/
def publishing : ParserPoint F → Bool
  | .StoreSeconds _ _ | .StoreMilliseconds _ _ | .StoreUpdated _ | .StoreValid => true
  | .Select | .Check _ | .Position _ _ | .Tick _ | .LoadValid _ | .LoadUpdated _
  | .StoreInvalid => false

/-- The check lets the time of this sentence through. -/
def accepts (t : GnssReceiver) (sentence : GnssPacket) : Bool :=
  !left_alone t.state && is_rmc sentence.toList &&
    (GnssTime.parse_rmc_datetime sentence.toList).isOk

/-- A request whose load of `GNSS_TIME_VALID` is done. -/
def answering : ResponsePoint → Bool
  | .Wait | .LoadValid _ | .StoreInvalid => false
  | .LoadUpdated _ _ | .LoadSeconds _ _ | .LoadMilliseconds _ _ _ | .Send _ _ _ => true

/-- `TurnOff` comes between no check and its stores, and ends between no load and its answer. -/
def Uncrossed (w : Gnss F) : Gnss.Action → Prop
  | .manager _ =>
    match w.manager.point with
    | .OffTime => publishing w.parser = false
    | .Drain => w.shared.gnss_channel.try_receive.isSome ∨ answering w.response.point = false
    | _ => True
  | .parser _ =>
    match w.manager.point, w.parser with
    | .Off, .Check sentence => accepts w.shared.telemetry sentence = false
    | _, _ => True
  | _ => True

instance instDecidableUncrossed (w : Gnss F) (a : Gnss.Action) : Decidable (Uncrossed w a) := by
  unfold Uncrossed
  split
  · split <;> infer_instance
  · split <;> infer_instance
  · infer_instance

/-! ## Lateness -/

/-- What a step does to lateness, and what it reports. -/
inductive LateStep (w : Gnss F) (a : Gnss.Action) (w' : Gnss F) (reports : List Gnss.Report) :
    Prop where
  | same (hlate : late w' = late w) (hreports : reports = [])
  | answered (request_id : UInt8) (unix_seconds : UInt32) (milliseconds : UInt16)
      (hanswering : answering w.response.point = true) (hlate : late w' = late w)
      (hreports : reports = [.answered request_id unix_seconds milliseconds])
  | begins (hlate : late w' = false) (hreports : reports = [.turn_on])
  | cleared (hvalid : w'.shared.gnss_time_valid = false) (hlate : late w' = true)
      (hparser : Uncrossed w a → publishing w'.parser = false) (hreports : reports = [])
  | ended (hbefore : late w = true) (hlate : late w' = true)
      (hresponse : Uncrossed w a → answering w'.response.point = false)
      (hreports : reports = [.turned_off])

/-- The loop over the letters ends at `Select` or `Detect`. -/
theorem late_letters (w : Gnss F) (letters : List UInt8) (now_ms : Nat) :
    late (w.step_letters letters now_ms) = decide (w.shared.telemetry.state = .Off) := by
  unfold step_letters
  dsimp only
  split <;> rfl

theorem detect_off (t : GnssReceiver) (now_ms : Nat) :
    (detect t now_ms).state = .Off ↔ t.state = .Off := by
  unfold detect
  cases t.state <;> simp

theorem off_append_singleton (past : List Gnss.Report) (report : Gnss.Report) :
    off (past ++ [report]) = follow (off past) report := by
  simp [off]

theorem late_manager {w w' : Gnss F} {now_ms : Nat} {reports : List Gnss.Report}
    (consistent : Consistent f w) (h : ManagerStep w now_ms w' reports) :
    LateStep w (.manager now_ms) w' reports := by
  obtain ⟨-, held⟩ := consistent
  cases h with
  | detect hpoint =>
    refine .same ?_ rfl
    simp [late, hpoint, manager_at, set_telemetry, detect_off]
  | send hpoint =>
    refine .same ?_ rfl
    rw [late_letters]
    simp [late, hpoint]
  | on_time hpoint | start hpoint | fail_time hpoint | off hpoint =>
    exact .same (by simp [late, hpoint, manager_at]) rfl
  | fail hpoint =>
    refine .same ?_ rfl
    have hstate : (set_receiver_state w.shared.telemetry .ConfigurationFailed now_ms).state =
        .ConfigurationFailed := rfl
    simp [late, hpoint, manager_at, set_telemetry, hstate]
  | off_time hpoint =>
    refine .cleared rfl rfl (fun hok => ?_) rfl
    simp only [Uncrossed, hpoint] at hok
    exact hok
  | drain hpoint => exact .same (by simp [late, hpoint]) rfl
  | drained hpoint hempty =>
    simp only [Held, hpoint] at held
    refine .ended (by simp [late, hpoint]) (by simp [late, manager_at, held.2]) (fun hok => ?_) rfl
    simp only [Uncrossed, hpoint, hempty] at hok
    exact hok.resolve_left (by simp)

theorem late_command {w : Gnss F} (hpoint : w.manager.point = .Select) (command : GnssCommand) :
    LateStep w (.receive command) (w.step_command command).1 (w.step_command command).2 := by
  cases command with
  | TurnOn =>
    unfold step_command
    cases hon : w.manager.is_on with
    | true => exact .same rfl rfl
    | false => exact .begins rfl rfl
  | TurnOff =>
    refine .same ?_ rfl
    simp only [late, hpoint]
    rfl

theorem late_configured {w : Gnss F} (consistent : Consistent f w)
    (hpoint : w.manager.point = .Configure) (configuration : Configuration) :
    LateStep w (.configured configuration) (w.step_configured configuration) [] := by
  have held := consistent.held
  simp only [Held, hpoint] at held
  refine .same ?_ rfl
  cases configuration <;> simp [late, hpoint, step_configured, manager_at, held.2]

theorem keeps_off {t t' : GnssReceiver} (h : Keeps t t') : t'.state = .Off ↔ t.state = .Off :=
  ⟨h.off, fun hoff => (h.quiet (by rw [hoff]; rfl)).trans hoff⟩

theorem late_elsewhere {w w' : Gnss F} (h : Elsewhere f w w') : late w' = late w := by
  unfold late
  rw [h.manager]
  simp only [keeps_off h.keeps]

theorem late_response {w w' : Gnss F} {now_ms : Nat} {room : Bool} {reports : List Gnss.Report}
    (hlate : late w' = late w) (h : w.step_response now_ms room = some (w', reports)) :
    LateStep w (.response now_ms room) w' reports := by
  unfold step_response at h
  split at h
  case h_1 => cases h
  case h_6 request unix_seconds milliseconds hpoint =>
    split at h <;> obtain ⟨-, rfl⟩ := Prod.mk.inj (Option.some.inj h)
    · exact .answered _ _ _ (by rw [hpoint]; rfl) hlate rfl
    · exact .same hlate rfl
  all_goals
    obtain ⟨-, rfl⟩ := Prod.mk.inj (Option.some.inj h)
    exact .same hlate rfl

theorem late_step {w w' : Gnss F} {a : Gnss.Action} {reports : List Gnss.Report}
    (consistent : Consistent f w) (h : (machine f).step w a = some (w', reports)) :
    LateStep w a w' reports := by
  cases stepped h with
  | read hpoint =>
    refine .same ?_ rfl
    rw [late_letters]
    simp [late, hpoint]
  | receive hpoint => exact late_command hpoint _
  | configured hpoint => exact late_configured consistent hpoint _
  | manager hmanager => exact late_manager consistent hmanager
  | receive_sentence | tick => exact .same rfl rfl
  | parser hparse => exact .same (late_elsewhere hparse.elsewhere) rfl
  | poll => exact .same (late_elsewhere (@poll_elsewhere F f w _)) rfl
  | response hresponse =>
    exact late_response (late_elsewhere (@response_elsewhere F f w w' _ _ _ hresponse)) hresponse

/-! ## The flag -/

/-- A flag that is down stays down, and then no answer gets under way. -/
structure Lowers (w w' : Gnss F) : Prop where
  valid : w.shared.gnss_time_valid = false → w'.shared.gnss_time_valid = false
  answering : w.shared.gnss_time_valid = false → answering w.response.point = false →
    answering w'.response.point = false

/-- A step of another task. -/
theorem lowers_of_response {w w' : Gnss F} (hresponse : w'.response = w.response)
    (hvalid : w.shared.gnss_time_valid = false → w'.shared.gnss_time_valid = false) :
    Lowers w w' :=
  ⟨hvalid, fun _ hidle => by rw [hresponse]; exact hidle⟩

theorem lowers_letters (w : Gnss F) (letters : List UInt8) (now_ms : Nat) :
    Lowers w (w.step_letters letters now_ms) := by
  unfold step_letters
  dsimp only
  split <;> exact lowers_of_response rfl id

theorem lowers_command (w : Gnss F) (command : GnssCommand) :
    Lowers w (w.step_command command).1 := by
  unfold step_command
  split
  · split <;> exact lowers_of_response rfl id
  · exact lowers_of_response rfl id

theorem lowers_poll (w : Gnss F) (request : Option (UInt8 × Nat)) : Lowers w (w.step_poll request) := by
  unfold step_poll
  split
  · exact ⟨id, fun _ => id⟩
  · split
    · exact ⟨id, fun _ => id⟩
    · exact ⟨id, fun _ _ => rfl⟩

theorem lowers_manager {w w' : Gnss F} {now_ms : Nat} {reports : List Gnss.Report}
    (h : ManagerStep w now_ms w' reports) : Lowers w w' := by
  cases h with
  | @send _ rest gnss_channel =>
    obtain ⟨hvalid, hidle⟩ :=
      lowers_letters { w with shared := { w.shared with gnss_channel } } rest now_ms
    exact ⟨hvalid, hidle⟩
  | on_time | fail_time | off_time => exact lowers_of_response rfl fun _ => rfl
  | _ => exact lowers_of_response rfl id

theorem lowers_response {w w' : Gnss F} {now_ms : Nat} {room : Bool} {reports : List Gnss.Report}
    (h : w.step_response now_ms room = some (w', reports)) : Lowers w w' := by
  unfold step_response at h
  split at h
  case h_1 => cases h
  case h_2 =>
    obtain ⟨rfl, -⟩ := Prod.mk.inj (Option.some.inj h)
    refine ⟨id, fun hvalid _ => ?_⟩
    rw [hvalid]
    rfl
  case h_7 =>
    obtain ⟨rfl, -⟩ := Prod.mk.inj (Option.some.inj h)
    exact ⟨fun _ => rfl, fun _ _ => rfl⟩
  case h_6 hpoint =>
    split at h <;> obtain ⟨rfl, -⟩ := Prod.mk.inj (Option.some.inj h) <;>
      exact ⟨id, fun _ _ => rfl⟩
  all_goals
    obtain ⟨rfl, -⟩ := Prod.mk.inj (Option.some.inj h)
    rename_i hpoint
    refine ⟨id, fun _ hidle => ?_⟩
    rw [hpoint] at hidle
    cases hidle

/-- The store of the parser that raises the flag. -/
def Raises (w : Gnss F) (a : Gnss.Action) : Prop :=
  ∃ now_ms, a = .parser now_ms ∧ w.parser = .StoreValid

theorem lowers_step {w w' : Gnss F} {a : Gnss.Action} {reports : List Gnss.Report}
    (h : (machine f).step w a = some (w', reports)) (hraises : ¬ Raises w a) : Lowers w w' := by
  cases stepped h with
  | read => exact lowers_letters w _ _
  | receive => exact lowers_command w _
  | @configured configuration =>
    cases configuration <;> exact lowers_of_response rfl id
  | manager hmanager => exact lowers_manager hmanager
  | receive_sentence | tick => exact lowers_of_response rfl id
  | parser hparse =>
    cases hparse with
    | keeps _ hresponse hvalid => exact lowers_of_response hresponse hvalid.trans
    | raises _ hpoint => exact absurd ⟨_, rfl, hpoint⟩ hraises
    | lowers _ hresponse hvalid => exact lowers_of_response hresponse fun _ => hvalid
  | poll => exact lowers_poll w _
  | response hresponse => exact lowers_response hresponse

/-! ## The parser -/

theorem publishing_parse_sentence (sentence : GnssPacket) (now_ms : Nat) :
    publishing (parse_sentence f sentence now_ms) =
      (is_rmc sentence.toList && (GnssTime.parse_rmc_datetime sentence.toList).isOk) := by
  unfold parse_sentence
  cases is_rmc sentence.toList with
  | false => cases is_gga sentence.toList <;> rfl
  | true => cases GnssTime.parse_rmc_datetime sentence.toList <;> rfl

/-- The stores begin behind a check that lets the time through. -/
theorem publishing_parse {w w' : Gnss F} {now_ms : Nat} (h : step_parse f w now_ms = some w')
    (hafter : publishing w'.parser = true) :
    publishing w.parser = true ∨
      ∃ sentence, w.parser = .Check sentence ∧ accepts w.shared.telemetry sentence = true := by
  unfold step_parse at h
  dsimp only at h
  split at h <;> rename_i hpoint
  case h_1 => cases h
  case h_2 =>
    obtain rfl := Option.some.inj h
    refine .inr ⟨_, hpoint, ?_⟩
    dsimp only [parser_at] at hafter
    split at hafter <;> rename_i hleft
    · cases hafter
    · rw [publishing_parse_sentence] at hafter
      simpa [accepts, hleft] using hafter
  case h_9 | h_10 =>
    obtain rfl := Option.some.inj h
    dsimp only [parser_at] at hafter
    split at hafter <;> cases hafter
  case h_3 | h_4 | h_5 | h_6 => exact .inl (by rw [hpoint]; rfl)
  all_goals
    obtain rfl := Option.some.inj h
    cases hafter

theorem parser_letters (w : Gnss F) (letters : List UInt8) (now_ms : Nat) :
    (w.step_letters letters now_ms).parser = w.parser := by
  unfold step_letters
  dsimp only
  split <;> rfl

theorem parser_manager {w w' : Gnss F} {now_ms : Nat} {reports : List Gnss.Report}
    (h : ManagerStep w now_ms w' reports) : w'.parser = w.parser := by
  cases h with
  | send => exact parser_letters _ _ _
  | _ => rfl

theorem parser_command (w : Gnss F) (command : GnssCommand) :
    (w.step_command command).1.parser = w.parser := by
  unfold step_command
  split
  · split <;> rfl
  · rfl

theorem parser_poll (w : Gnss F) (request : Option (UInt8 × Nat)) :
    (w.step_poll request).parser = w.parser := by
  unfold step_poll
  split
  · rfl
  · split <;> rfl

theorem parser_response {w w' : Gnss F} {now_ms : Nat} {room : Bool} {reports : List Gnss.Report}
    (h : w.step_response now_ms room = some (w', reports)) : w'.parser = w.parser := by
  unfold step_response at h
  split at h
  case h_1 => cases h
  case h_6 => split at h <;> obtain ⟨rfl, -⟩ := Prod.mk.inj (Option.some.inj h) <;> rfl
  all_goals
    obtain ⟨rfl, -⟩ := Prod.mk.inj (Option.some.inj h)
    rfl

/-- Behind the lock section of `TurnOff` no check lets a time through. -/
theorem late_left {w : Gnss F} (consistent : Consistent f w) (hlate : late w = true)
    (hpoint : w.manager.point ≠ .Off) : w.shared.telemetry.state = .Off := by
  have held := consistent.held
  unfold late at hlate
  split at hlate <;> rename_i heq
  case h_10 => exact absurd heq hpoint
  case h_11 =>
    simp only [Held, heq] at held
    exact held.2
  all_goals first
    | cases hlate
    | exact of_decide_eq_true hlate

theorem publishing_step {w w' : Gnss F} {a : Gnss.Action} {reports : List Gnss.Report}
    (consistent : Consistent f w) (hok : Uncrossed w a)
    (h : (machine f).step w a = some (w', reports)) (hlate : late w = true)
    (hbefore : publishing w.parser = false) : publishing w'.parser = false := by
  cases stepped h with
  | read => rwa [parser_letters]
  | receive => rwa [parser_command]
  | @configured configuration => cases configuration <;> exact hbefore
  | manager hmanager => rwa [parser_manager hmanager]
  | receive_sentence | tick => rfl
  | poll => rwa [parser_poll]
  | response hresponse => rwa [parser_response hresponse]
  | parser _ hstep =>
    by_contra hafter
    rcases publishing_parse hstep (by simpa using hafter) with hpublishing | ⟨sentence, hcheck, haccepts⟩
    · rw [hbefore] at hpublishing
      cases hpublishing
    · by_cases hpoint : w.manager.point = .Off
      · simp only [Uncrossed, hpoint, hcheck] at hok
        rw [hok] at haccepts
        cases haccepts
      · simp [accepts, late_left consistent hlate hpoint, left_alone] at haccepts

/-! ## Every run -/

/-- What a run under the condition keeps. -/
structure TimeOff (f : GnssFunctions F) (past : List Gnss.Report) (w : Gnss F) : Prop where
  consistent : Consistent f w
  parser : late w = true → publishing w.parser = false
  valid : late w = true → w.shared.gnss_time_valid = false
  off : off past = true → late w = true ∧ answering w.response.point = false

theorem TimeOff.not_raises {past : List Gnss.Report} {w : Gnss F} (timeOff : TimeOff f past w)
    (hlate : late w = true) (a : Gnss.Action) : ¬ Raises w a := by
  rintro ⟨now_ms, -, hpoint⟩
  have hparser := timeOff.parser hlate
  rw [hpoint] at hparser
  cases hparser

theorem timeOff_step {past reports : List Gnss.Report} {w w' : Gnss F} {a : Gnss.Action}
    (timeOff : TimeOff f past w) (hok : Uncrossed w a)
    (h : (machine f).step w a = some (w', reports)) : TimeOff f (past ++ reports) w' := by
  have consistent := consistent_step timeOff.consistent h
  have hlowers (hlate : late w = true) : Lowers w w' := lowers_step h (timeOff.not_raises hlate a)
  have hparser (hlate : late w = true) : publishing w'.parser = false :=
    publishing_step timeOff.consistent hok h hlate (timeOff.parser hlate)
  have hvalid (hlate : late w = true) : w'.shared.gnss_time_valid = false :=
    (hlowers hlate).valid (timeOff.valid hlate)
  have hidle (hoff : off past = true) : answering w'.response.point = false := by
    obtain ⟨hlate, hanswering⟩ := timeOff.off hoff
    exact (hlowers hlate).answering (timeOff.valid hlate) hanswering
  cases late_step timeOff.consistent h with
  | same hlate hreports =>
    subst hreports
    rw [List.append_nil]
    exact ⟨consistent, fun hafter => hparser (hlate.symm.trans hafter),
      fun hafter => hvalid (hlate.symm.trans hafter),
      fun hoff => ⟨hlate.trans (timeOff.off hoff).1, hidle hoff⟩⟩
  | answered _ _ _ _ hlate hreports =>
    refine ⟨consistent, fun hafter => hparser (hlate.symm.trans hafter),
      fun hafter => hvalid (hlate.symm.trans hafter), fun hoff => ?_⟩
    rw [hreports, off_append_singleton] at hoff
    exact ⟨hlate.trans (timeOff.off hoff).1, hidle hoff⟩
  | begins hlate hreports =>
    have hbegun : late w' ≠ true := by simp [hlate]
    refine ⟨consistent, fun hafter => absurd hafter hbegun, fun hafter => absurd hafter hbegun,
      fun hoff => ?_⟩
    rw [hreports, off_append_singleton] at hoff
    cases hoff
  | cleared hcleared hlate hstores hreports =>
    subst hreports
    rw [List.append_nil]
    exact ⟨consistent, fun _ => hstores hok, fun _ => hcleared, fun hoff => ⟨hlate, hidle hoff⟩⟩
  | ended hbefore hlate hresponse =>
    exact ⟨consistent, fun _ => hparser hbefore, fun _ => hvalid hbefore,
      fun _ => ⟨hlate, hresponse hok⟩⟩

theorem timeOff_run {past : List Gnss.Report} {w : Gnss F}
    (run : Machine.Run (machine f) Uncrossed past w) : TimeOff f past w := by
  refine run.invariant (I := TimeOff f) ?_ fun _ _ _ _ _ _ timeOff hok h =>
    timeOff_step timeOff hok h
  rintro _ rfl
  exact ⟨⟨rfl, fun _ => rfl⟩, fun _ => rfl, fun _ => rfl, nofun⟩

/-- An answer is not sent while the receiver is off. -/
theorem not_off_of_answered {past before after : List Gnss.Report} {w : Gnss F} {request_id : UInt8}
    {unix_seconds : UInt32} {milliseconds : UInt16}
    (run : Machine.Run (machine f) Uncrossed past w)
    (hpast : past = before ++ .answered request_id unix_seconds milliseconds :: after) :
    off before = false := by
  obtain ⟨past', v, a, v', new, later, run', hstep, rfl⟩ := run.reported hpast
  have timeOff := timeOff_run run'
  by_contra hoff
  cases late_step timeOff.consistent hstep with
  | answered _ _ _ hanswering _ hreports =>
    obtain ⟨rfl, -⟩ | ⟨_, hnew⟩ := List.append_eq_singleton_iff.mp hreports
    · rw [List.append_nil] at hoff
      have hidle := (timeOff.off (by simpa using hoff)).2
      rw [hanswering] at hidle
      cases hidle
    · cases hnew
  | same _ hreports | cleared _ _ _ hreports => simp at hreports
  | begins _ hreports | ended _ _ _ hreports =>
    have hmem : Gnss.Report.answered request_id unix_seconds milliseconds ∈
        new ++ .answered request_id unix_seconds milliseconds :: later := by simp
    rw [hreports] at hmem
    simp at hmem

/-- Where nothing crosses `TurnOff`, the flag is down and no request is answered while the receiver is
off. -/
theorem no_time_while_off {past : List Gnss.Report} {w : Gnss F}
    (run : Machine.Run (machine f) Uncrossed past w) :
    (off past = true → w.shared.gnss_time_valid = false) ∧
      ∀ before request_id unix_seconds milliseconds after,
        past = before ++ .answered request_id unix_seconds milliseconds :: after →
          off before = false := by
  have timeOff := timeOff_run run
  exact ⟨fun hoff => timeOff.valid (timeOff.off hoff).1,
    fun _ _ _ _ _ hpast => not_off_of_answered run hpast⟩

/-- An RMC sentence and the end of its line. -/
def rmcLine : List UInt8 := "$GNRMC,123519.250,V,,,,,,,230826,,,N*54\r\n".toUTF8.toList

/-- The four stores behind the check. -/
def stores : List Gnss.Action := [.parser 1000, .parser 1000, .parser 1000, .parser 1000]

def turnOff : List Gnss.Action := [.receive .TurnOff, .manager 1001, .manager 1001, .manager 1001]

/-- A request and its answer. -/
def request (request_id : UInt8) : List Gnss.Action :=
  [.poll (some (request_id, 1000)), .response 1000 true, .response 1000 true, .response 1000 true,
    .response 1000 true, .response 1000 true]

/-- The request that comes while the receiver is off is not answered. -/
theorem no_time_while_off_stored : ∃ past w, Machine.Run (machine atReference) Uncrossed past w ∧
    past = [.turn_on, .answered 6 1787488519 250, .turned_off] ∧
      w.shared.gnss_time_unix_seconds = 1787488519 ∧ w.shared.gnss_time_valid = false ∧
        off [.turn_on] = false := by
  have hrun : ∃ past w, Machine.Run (machine atReference) Uncrossed past w ∧
      past = [.turn_on, .answered 6 1787488519 250, .turned_off] ∧
        w.shared.gnss_time_unix_seconds = 1787488519 :=
    Machine.exists_checked_run
      (fun (w : Gnss Nat) (past : List Gnss.Report) =>
        past = [.turn_on, .answered 6 1787488519 250, .turned_off] ∧
          w.shared.gnss_time_unix_seconds = 1787488519)
      (turnOn ++ line rmcLine ++ [.parser 1000] ++ stores ++ request 6 ++ turnOff ++
        [.poll (some (7, 1000)), .response 1000 true])
      rfl (by decide +kernel)
  obtain ⟨past, w, run, hpast, hseconds⟩ := hrun
  obtain ⟨hvalid, hanswers⟩ := no_time_while_off run
  exact ⟨past, w, run, hpast, hseconds, hvalid (by rw [hpast]; rfl),
    hanswers [.turn_on] 6 1787488519 250 [.turned_off] hpast⟩

/-- `TurnOff` comes behind the check. A request that arrives then is answered. -/
theorem time_answered_while_off : ∃ past w,
    Machine.Run (machine atReference) Machine.anyStep past w ∧
      past = [.turn_on, .turned_off, .answered 7 1787488519 350] ∧
        off past = true ∧ w.shared.telemetry.state = .Off ∧ w.shared.gnss_time_valid = true :=
  Machine.exists_run
    (fun (w : Gnss Nat) past => past = [.turn_on, .turned_off, .answered 7 1787488519 350] ∧
      off past = true ∧ w.shared.telemetry.state = .Off ∧ w.shared.gnss_time_valid = true)
    (turnOn ++ line rmcLine ++ [.parser 1000] ++ turnOff ++ stores ++
      [.poll (some (7, 1100)), .response 1100 true, .response 1100 true, .response 1100 true,
        .response 1100 true, .response 1100 true])
    rfl (fun _ _ _ => trivial) (by decide +kernel)

end Comboard.GnssTimeOff
