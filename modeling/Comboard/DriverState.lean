import Comboard.CanSteps
import Comboard.Lib.History

/-!
# When the CAN driver is restarted

What the task takes the driver for can be read off its last events, and a fault restarts the driver
only where it comes upon one that works.
-/

namespace Comboard.DriverState

open Lib CanCommunicationTask CanSteps

/-! ## Events -/

def events (past : List CanReport) : List CanRuntimeEvent := past.filterMap event

def fault (e : CanRuntimeEvent) : Bool := e = .BusOff ∨ e = .TimedOutUnknownState

/-- The frame went out or came in. -/
def got_through : CanReport → Bool
  | .attempted _ none | .received _ _ => true
  | _ => false

/-- A received frame says nothing about a transmission whose end is not known. -/
def about_transmission (e : CanRuntimeEvent) : Option CanRuntimeEvent :=
  if e = .ReceiveSucceeded then none else some e

/-- What the events say about the driver. -/
def driver_state (events : List CanRuntimeEvent) : CanRuntimeState :=
  if newest about_transmission events = some .TimedOutUnknownState then .TxStateUnknown
  else if events.getLast? = some .BusOff then .BusRecovering
  else if events = [] then .AwaitingTraffic
  else .Normal

def working (state : CanRuntimeState) : Bool := state = .AwaitingTraffic ∨ state = .Normal

/-- Only a received frame leaves anything of the state before. -/
theorem transition_set (state : CanRuntimeState) :
    (transition_runtime state .TransmitSucceeded).1 = .Normal ∧
      (transition_runtime state .BusOff).1 = .BusRecovering ∧
        (transition_runtime state .TimedOutUnknownState).1 = .TxStateUnknown ∧
          (transition_runtime state .ReceiveSucceeded).1 =
            if state = .TxStateUnknown then .TxStateUnknown else .Normal := by
  cases state <;> decide

/-- One event more. -/
theorem driver_state_concat (events : List CanRuntimeEvent) (e : CanRuntimeEvent) :
    driver_state (events ++ [e]) = (transition_runtime (driver_state events) e).1 := by
  obtain ⟨hsent, hoff, hunknown, hreceived⟩ := transition_set (driver_state events)
  cases e with
  | TransmitSucceeded =>
    rw [hsent]
    simp [driver_state, about_transmission]
  | BusOff =>
    rw [hoff]
    simp [driver_state, about_transmission]
  | TimedOutUnknownState =>
    rw [hunknown]
    simp [driver_state, about_transmission]
  | ReceiveSucceeded =>
    have hnewest : newest about_transmission (events ++ [.ReceiveSucceeded]) =
        newest about_transmission events := by simp [about_transmission]
    have hstate : driver_state events = .TxStateUnknown ↔
        newest about_transmission events = some .TimedOutUnknownState := by
      unfold driver_state
      split <;> rename_i h
      · simp [h]
      · split
        · simp [h]
        · split <;> simp [h]
    rw [hreceived]
    simp only [hstate]
    simp [driver_state, hnewest]

/-- A restart is asked for by a fault on a driver that works. -/
theorem restart_required (state : CanRuntimeState) (e : CanRuntimeEvent) :
    (transition_runtime state e).2 = (fault e && working state) := by
  cases state <;> cases e <;> rfl

/-! ## Where the restarts stand -/

/-- What the task has to do with the driver. -/
def about_driver : CanReport → Bool
  | .attempted _ _ | .received _ _ | .receive_error _ | .health_tick _ | .restarted => true
  | _ => false

theorem not_about_driver {r : CanReport} (h : aside r = true) : about_driver r = false := by
  unfold aside at h
  split at h
  · rfl
  · rfl
  · rfl
  · simp at h

def driver_reports (past : List CanReport) : List CanReport := past.filter about_driver

/-- The report is of a fault, and the driver worked before it. -/
def Due (before : List CanReport) (r : CanReport) : Prop :=
  ∃ e, event r = some e ∧ fault e = true ∧ working (driver_state (events before)) = true

theorem not_due_restarted (before : List CanReport) : ¬ Due before .restarted := by
  rintro ⟨e, he, -⟩
  simp [event] at he

/-- A restart stands behind every report that is due one, and nowhere else. -/
structure Marked (past : List CanReport) : Prop where
  head : past.head? ≠ some .restarted
  next : ∀ before r r' after, past = before ++ r :: r' :: after → (r' = .restarted ↔ Due before r)

/-- The last report is due no restart. -/
def Settled (past : List CanReport) : Prop := ∀ before r, past = before ++ [r] → ¬ Due before r

theorem Marked.nil : Marked [] where
  head := nofun
  next := by simp

theorem settled_nil : Settled [] := by
  intro before r h
  simp at h

theorem settled_concat {past : List CanReport} {r : CanReport} (h : ¬ Due past r) :
    Settled (past ++ [r]) := by
  intro before r' heq
  obtain ⟨rfl, hr⟩ := List.append_inj' heq rfl
  obtain rfl := List.singleton_inj.mp hr
  exact h

theorem Marked.concat {past : List CanReport} {r' : CanReport} (h : Marked past)
    (hnil : past = [] → r' ≠ .restarted)
    (hlast : ∀ before r, past = before ++ [r] → (r' = .restarted ↔ Due before r)) :
    Marked (past ++ [r']) where
  head := by
    cases past with
    | nil => simpa using hnil rfl
    | cons => exact h.head
  next before r r'' after heq := by
    rcases after.eq_nil_or_concat with rfl | ⟨after, last, rfl⟩
    · have hsplit : past ++ [r'] = (before ++ [r]) ++ [r''] := by simpa using heq
      obtain ⟨hpast, hr⟩ := List.append_inj' hsplit rfl
      obtain rfl := List.singleton_inj.mp hr
      exact hlast before r hpast
    · have hsplit : past ++ [r'] = (before ++ r :: r'' :: after) ++ [last] := by simpa using heq
      exact h.next before r r'' after (List.append_inj' hsplit rfl).1

/-- A report that is no restart comes behind one that is due none. -/
theorem Marked.report {past : List CanReport} {r : CanReport} (h : Marked past)
    (settled : Settled past) (hr : r ≠ .restarted) : Marked (past ++ [r]) :=
  h.concat (fun _ => hr) fun before r' hpast => iff_of_false hr (settled before r' hpast)

theorem Marked.restart {past : List CanReport} {r : CanReport} (h : Marked (past ++ [r]))
    (hdue : Due past r) : Marked (past ++ [r] ++ [.restarted]) := by
  refine h.concat (fun hnil => by simp at hnil) fun before r' heq => iff_of_true rfl ?_
  obtain ⟨rfl, hr⟩ := List.append_inj' heq rfl
  obtain rfl := List.singleton_inj.mp hr
  exact hdue

theorem Marked.restarted_iff {past before after : List CanReport} {r : CanReport} (h : Marked past)
    (settled : Settled past) (hpast : past = before ++ r :: after) :
    after.head? = some .restarted ↔ Due before r := by
  cases after with
  | nil => exact iff_of_false nofun (settled before r hpast)
  | cons r' after => simpa using h.next before r r' after hpast

/-! ## What the task does with an event -/

/-- A history that the state of the driver agrees with, when everything is said. -/
structure Agrees (past : List CanReport) (state : CanRuntimeState) : Prop where
  state : state = driver_state (events past)
  marked : Marked past
  settled : Settled past

theorem events_concat (past : List CanReport) (r : CanReport) :
    events (past ++ [r]) = events past ++ (event r).toList := by
  unfold events
  rw [List.filterMap_append]
  cases h : event r <;> simp [h]

theorem driver_state_event {past : List CanReport} {r : CanReport} {state : CanRuntimeState}
    (h : state = driver_state (events past)) :
    (fed state (event r)).1 = driver_state (events (past ++ [r])) := by
  rw [events_concat, h]
  cases event r with
  | none => simp [fed]
  | some e => exact (driver_state_concat _ e).symm

/-- The report, then what is done about it. -/
theorem agrees_fed {past : List CanReport} {r : CanReport} {state : CanRuntimeState}
    (hstate : state = driver_state (events past)) (marked : Marked (past ++ [r])) :
    Agrees (past ++ [r] ++ (fed state (event r)).2) (fed state (event r)).1 := by
  have hnext := @driver_state_event past r state hstate
  by_cases hdue : Due past r
  · obtain ⟨e, he, hfault, hworking⟩ := hdue
    have hrestart : (fed state (event r)).2 = [.restarted] := by
      simp [he, fed, restart_required, hfault, hstate, hworking]
    rw [hrestart]
    refine ⟨?_, marked.restart ⟨e, he, hfault, hworking⟩, settled_concat (not_due_restarted _)⟩
    rw [hnext, events_concat _ .restarted]
    simp [event]
  · have hquiet : (fed state (event r)).2 = [] := by
      cases he : event r with
      | none => rfl
      | some e =>
        have hnot : (fault e && working (driver_state (events past))) = false := by
          rw [Bool.eq_false_iff]
          intro h
          exact hdue ⟨e, he, (Bool.and_eq_true _ _).mp h⟩
        simp [fed, restart_required, hstate, hnot]
    rw [hquiet, List.append_nil]
    exact ⟨hnext, marked, settled_concat hdue⟩

theorem Agrees.report {past : List CanReport} {r : CanReport} {state : CanRuntimeState}
    (h : Agrees past state) (hr : r ≠ .restarted) :
    Agrees (past ++ [r] ++ (fed state (event r)).2) (fed state (event r)).1 :=
  agrees_fed h.state (h.marked.report h.settled hr)

/-! ## Every run -/

theorem driver_reports_append (past new : List CanReport) :
    driver_reports (past ++ new) = driver_reports past ++ driver_reports new :=
  List.filter_append ..

theorem events_driver_reports (past : List CanReport) :
    events (driver_reports past) = events past := by
  unfold events driver_reports
  rw [List.filterMap_filter]
  refine List.filterMap_congr fun r _ => ?_
  cases r <;> rfl

theorem driver_reports_fed (state : CanRuntimeState) (e : Option CanRuntimeEvent) :
    driver_reports (fed state e).2 = (fed state e).2 := by
  cases e with
  | none => rfl
  | some e =>
    unfold fed
    dsimp only
    split <;> rfl

theorem driver_reports_told {r : CanReport} (hr : told r = true) (new : List CanReport) :
    driver_reports (r :: new) = r :: driver_reports new := by
  have habout : about_driver r = true := by cases r <;> simp_all [told, about_driver]
  exact List.filter_cons_of_pos habout

theorem ne_restarted {r : CanReport} (hr : told r = true) : r ≠ .restarted := by
  rintro rfl
  simp [told] at hr

/-- Where the history of a run and the state of the driver stand. -/
inductive Follows (past : List CanReport) (w : CanCommunicationTask) : Prop where
  | settled (hrecovering : w.recovering = none)
      (agrees : Agrees (driver_reports past) w.runtime_state)
  /-- A failure waits for the lock, and what there is to do about the driver waits with it. -/
  | failing {before : List CanReport} {r : CanReport} (hrecovering : w.recovering = event r)
      (hlocked : ∃ result, w.path.can = .LockFailed result)
      (hpast : driver_reports past = before ++ [r])
      (hstate : w.runtime_state = driver_state (events before)) (marked : Marked (before ++ [r]))

theorem Follows.agrees {past : List CanReport} {w : CanCommunicationTask} (h : Follows past w)
    (hcan : ∀ result, w.path.can ≠ .LockFailed result) :
    w.recovering = none ∧ Agrees (driver_reports past) w.runtime_state := by
  cases h with
  | settled hrecovering agrees => exact ⟨hrecovering, agrees⟩
  | failing _ hlocked =>
    obtain ⟨result, hlocked⟩ := hlocked
    exact absurd hlocked (hcan result)

theorem follows_beside {past new : List CanReport} {w w' : CanCommunicationTask}
    (h : Follows past w) (hnew : driver_reports new = []) (hheld : held w' = held w)
    (hcan : w.path.can = .Select ∨ w'.path.can = w.path.can) : Follows (past ++ new) w' := by
  have hreports : driver_reports (past ++ new) = driver_reports past := by
    rw [driver_reports_append, hnew, List.append_nil]
  have hstate : w'.runtime_state = w.runtime_state := congrArg Held.runtime_state hheld
  have hrecovering' : w'.recovering = w.recovering := congrArg Held.recovering hheld
  cases h with
  | settled hrecovering agrees =>
    exact .settled (hrecovering'.trans hrecovering) (by rwa [hreports, hstate])
  | failing hrecovering hlocked hpast hbefore marked =>
    obtain ⟨result, hlocked⟩ := hlocked
    rcases hcan with hselect | hsame
    · simp [hselect] at hlocked
    · exact .failing (hrecovering'.trans hrecovering) ⟨result, hsame.trans hlocked⟩
        (hreports.trans hpast) (hstate.trans hbefore) marked

theorem follows_turn {past reports : List CanReport} {w v : CanCommunicationTask}
    (h : Follows past w) (turn : Turn w v reports) : Follows (past ++ reports) v := by
  cases turn with
  | beside hreports hheld hcan =>
    refine follows_beside h ?_ hheld hcan
    refine List.filter_eq_nil_iff.mpr fun r hr => ?_
    simp [not_about_driver (hreports r hr)]
  | @told r hcan hr hheld =>
    obtain ⟨hrecovering, agrees⟩ := h.agrees hcan
    have hstate : v.runtime_state = _ := congrArg Held.runtime_state hheld
    have hrecovering' : v.recovering = w.recovering := congrArg Held.recovering hheld
    refine .settled (hrecovering'.trans hrecovering) ?_
    rw [hstate, driver_reports_append, driver_reports_told hr, driver_reports_fed]
    simpa using agrees.report (ne_restarted hr)
  | @locked message error result hcan hlocked hheld =>
    obtain ⟨-, agrees⟩ := h.agrees hcan
    have hstate : v.runtime_state = w.runtime_state := congrArg Held.runtime_state hheld
    have hrecovering : v.recovering = error.event := congrArg Held.recovering hheld
    exact .failing (r := .attempted message (some error)) hrecovering ⟨result, hlocked⟩
      (driver_reports_append _ _)
      (hstate.trans agrees.state) (agrees.marked.report agrees.settled nofun)
  | unlocked hcan hheld =>
    have hstate : v.runtime_state = _ := congrArg Held.runtime_state hheld
    refine .settled (congrArg Held.recovering hheld) ?_
    rw [hstate, driver_reports_append, driver_reports_fed]
    cases h with
    | settled hrecovering agrees => simpa [hrecovering, fed] using agrees
    | failing hrecovering _ hpast hbefore marked =>
      rw [hrecovering, hpast]
      exact agrees_fed hbefore marked

theorem follows : Invariant Follows where
  start _ := .settled rfl ⟨rfl, .nil, settled_nil⟩
  arm h arm := follows_turn h arm.turn
  publish h hcan := follows_beside h rfl rfl (.inl hcan)

theorem agrees_run {ok : CanCommunicationTask → Action → Prop} {past : List CanReport}
    {w : CanCommunicationTask} (run : Machine.Run machine ok past w) (hcan : w.path.can = .Select) :
    Agrees (driver_reports past) w.runtime_state :=
  ((follows.run run).agrees (by simp [hcan])).2

/-- Between two iterations the state of the driver can be read off its last events, and the driver
was restarted behind each fault that came upon it while it worked, and at no other time. -/
theorem restarted_iff_fault_while_working {past : List CanReport} {w : CanCommunicationTask}
    (run : Machine.Run machine Machine.anyStep past w) (hcan : w.path.can = .Select) :
    w.runtime_state = driver_state (events past) ∧
      (driver_reports past).head? ≠ some .restarted ∧
        ∀ before r after, driver_reports past = before ++ r :: after →
          (after.head? = some .restarted ↔
            ∃ e, event r = some e ∧ fault e = true ∧
              working (driver_state (events before)) = true) := by
  have agrees := agrees_run run hcan
  refine ⟨?_, agrees.marked.head, fun before r after hpast => ?_⟩
  · rw [← events_driver_reports]
    exact agrees.state
  · exact agrees.marked.restarted_iff agrees.settled hpast

def bus_off : Registers := { calm.registers with is_bus_off := true }

/-- Two outages, and a frame between them. -/
def outages : List Action :=
  [.health_tick bus_off calm, .health_tick bus_off calm, .received (control_frame 7) 300 calm,
    .health_tick bus_off calm]

theorem outages_run : ∃ past w, Machine.Run machine Machine.anyStep past w ∧
    w.path.can = .Select ∧ driver_reports past =
      [.health_tick .BusOff, .restarted, .health_tick .BusOff, .received (control_frame 7) 300,
        .health_tick .BusOff, .restarted] ∧
      past = past.take 1 ++ .restarted :: (past.drop 2).take 6 ++ .restarted :: past.drop 9 :=
  Machine.exists_run (fun (w : CanCommunicationTask) past => w.path.can = .Select ∧
    driver_reports past = [.health_tick .BusOff, .restarted, .health_tick .BusOff,
      .received (control_frame 7) 300, .health_tick .BusOff, .restarted] ∧
    past = past.take 1 ++ .restarted :: (past.drop 2).take 6 ++ .restarted :: past.drop 9)
    outages ⟨calm.registers, rfl⟩ (fun _ _ _ => trivial) (by decide +kernel)

theorem restarted_iff_fault_while_working_outages : ∃ past w,
    Machine.Run machine Machine.anyStep past w ∧ w.runtime_state = .BusRecovering ∧
      ∃ e, event (.health_tick .BusOff) = some e ∧ fault e = true ∧
        working (driver_state (events [.health_tick .BusOff, .restarted, .health_tick .BusOff,
          .received (control_frame 7) 300])) = true := by
  obtain ⟨past, w, run, hcan, hreports, -⟩ := outages_run
  obtain ⟨hstate, -, hiff⟩ := restarted_iff_fault_while_working run hcan
  refine ⟨past, w, run, ?_, (hiff _ _ [.restarted] hreports).mp rfl⟩
  rw [hstate, ← events_driver_reports, hreports]
  rfl

/-! ## Between two restarts -/

theorem Follows.marked {past : List CanReport} {w : CanCommunicationTask} (h : Follows past w) :
    Marked (driver_reports past) := by
  cases h with
  | settled _ agrees => exact agrees.marked
  | failing _ _ hpast _ marked => rwa [hpast]

theorem not_working_of_fault (events : List CanRuntimeEvent) {e : CanRuntimeEvent}
    (h : fault e = true) : working (driver_state (events ++ [e])) = false := by
  obtain ⟨-, hoff, hunknown, -⟩ := transition_set (driver_state events)
  rw [driver_state_concat]
  cases e with
  | BusOff => rw [hoff]; rfl
  | TimedOutUnknownState => rw [hunknown]; rfl
  | TransmitSucceeded | ReceiveSucceeded => simp [fault] at h

theorem got_through_of_event {r : CanReport} {e : CanRuntimeEvent} (h : event r = some e)
    (he : fault e = false) : got_through r = true := by
  rcases r with ⟨message, _ | error⟩ | _ | error | health | _ | _ | _ | _ | _
  · rfl
  · cases error <;> simp [event, CanTxError.event] at h <;> simp [← h, fault] at he
  · rfl
  · cases error <;> simp [event] at h
    simp [← h, fault] at he
  · cases health <;> simp [event] at h
    simp [← h, fault] at he
  all_goals simp [event] at h

theorem not_working_of_faults (events : List CanRuntimeEvent) {e : CanRuntimeEvent}
    {faults : List CanRuntimeEvent} (he : fault e = true) (h : ∀ e' ∈ faults, fault e' = true) :
    working (driver_state (events ++ e :: faults)) = false := by
  rcases faults.eq_nil_or_concat' with rfl | ⟨faults, last, rfl⟩
  · exact not_working_of_fault events he
  · have hlast := not_working_of_fault (events ++ e :: faults) (h last (by simp))
    simpa using hlast

/-- A restart stands behind a report that was due it. -/
theorem Marked.due {past before after : List CanReport} (h : Marked past)
    (hpast : past = before ++ .restarted :: after) :
    ∃ before' r, before = before' ++ [r] ∧ Due before' r := by
  rcases before.eq_nil_or_concat' with rfl | ⟨before, r, rfl⟩
  · exact absurd (by rw [hpast]; rfl) h.head
  · exact ⟨before, r, rfl, (h.next before r .restarted after (by simp [hpast])).mp rfl⟩

/-- The driver is not restarted again before a frame went out or came in. -/
theorem frame_between_restarts {past before between after : List CanReport}
    {w : CanCommunicationTask} (run : Machine.Run machine Machine.anyStep past w)
    (hpast : past = before ++ .restarted :: between ++ .restarted :: after) :
    ∃ r ∈ between, got_through r = true := by
  have marked := (follows.run run).marked
  have hrestarted : about_driver .restarted = true := rfl
  have hreports : driver_reports past = driver_reports before ++
      .restarted :: (driver_reports between ++ .restarted :: driver_reports after) := by
    simp only [hpast, driver_reports, List.filter_append, List.append_assoc, List.cons_append,
      List.filter_cons_of_pos hrestarted]
  have hreports' : driver_reports past = (driver_reports before ++
      .restarted :: driver_reports between) ++ .restarted :: driver_reports after := by
    simp [hreports]
  obtain ⟨before₁, r₁, hbefore₁, e₁, he₁, hfault₁, -⟩ := marked.due hreports
  obtain ⟨before₂, r₂, hbefore₂, e₂, he₂, -, hworking⟩ := marked.due hreports'
  by_contra hnone
  push Not at hnone
  rcases (driver_reports between).eq_nil_or_concat' with hnil | ⟨between', last, hbetween⟩
  · rw [hnil] at hbefore₂
    obtain ⟨-, hr₂⟩ := List.append_inj' hbefore₂ rfl
    obtain rfl := List.singleton_inj.mp hr₂
    simp [event] at he₂
  · have hsplit : (driver_reports before ++ .restarted :: between') ++ [last] = before₂ ++ [r₂] := by
      rw [← hbefore₂, hbetween]
      simp
    obtain ⟨rfl, -⟩ := List.append_inj' hsplit rfl
    have hevents : events (driver_reports before ++ .restarted :: between') =
        events before₁ ++ e₁ :: events between' := by
      simp [events, hbefore₁, he₁, show event .restarted = none from rfl]
    rw [hevents, not_working_of_faults _ hfault₁] at hworking
    · simp at hworking
    · intro e he
      obtain ⟨r, hr, hre⟩ := List.mem_filterMap.mp he
      by_contra hfault
      have hmem : r ∈ driver_reports between := by simp [hbetween, hr]
      exact hnone r (List.mem_of_mem_filter hmem)
        (got_through_of_event hre (Bool.eq_false_iff.mpr hfault))

theorem frame_between_restarts_outages : ∃ past w before between after,
    Machine.Run machine Machine.anyStep past w ∧
      past = before ++ .restarted :: between ++ .restarted :: after ∧
        ∃ r ∈ between, got_through r = true := by
  obtain ⟨past, w, run, -, -, hpast⟩ := outages_run
  exact ⟨past, w, _, _, _, run, hpast, frame_between_restarts run hpast⟩

end Comboard.DriverState
