import Comboard.CanRefinement
import Comboard.Lib.History
import Comboard.Telemetry

/-!
# What the CAN task counts, and the device health

The counters are those of the whole history. A frame that is not of a declared format is counted as
an error, and the device health is always that of one frame.
-/

namespace Comboard.ReceivedFrames

open Lib CanCommunicationTask CanSteps CanGrammar Telemetry

/-! ## The declared formats -/

def DeviceHealthFormat (data : List UInt8) : Prop :=
  data.length = 6 ∧ ∀ state ∈ data.tail, state ≤ 4

instance (data : List UInt8) : Decidable (DeviceHealthFormat data) :=
  inferInstanceAs (Decidable (_ ∧ _))

theorem decode_standard_isOk (identifier : UInt16) (data : List UInt8) :
    (CanRxMessage.decode_standard identifier data).isOk = true ↔ Format identifier data := by
  rw [← (receive_codec identifier data).2.1]
  cases CanRxMessage.decode_standard identifier data <;> simp [Except.isOk, Except.toBool]

instance (identifier : UInt16) (data : List UInt8) : Decidable (Format identifier data) :=
  decidable_of_iff _ (decode_standard_isOk identifier data)

/-- A frame that the task has a use for. -/
def Accepted : CanId → List UInt8 → Prop
  | .Extended _, _ => False
  | .Standard identifier, data =>
    if identifier = 0x014 then RecoveryModeCommand data
    else if identifier = CAN_ID_DEVICE_HEALTH then DeviceHealthFormat data
    else Format identifier data

instance : (id : CanId) → (data : List UInt8) → Decidable (Accepted id data)
  | .Extended _, _ => inferInstanceAs (Decidable False)
  | .Standard identifier, data =>
    inferInstanceAs (Decidable (if identifier = 0x014 then RecoveryModeCommand data
      else if identifier = CAN_ID_DEVICE_HEALTH then DeviceHealthFormat data
      else Format identifier data))

theorem decode_device_health_eq (data : List UInt8) :
    (decode_device_health data).isSome = true ↔ DeviceHealthFormat data := by
  unfold decode_device_health DeviceHealthFormat
  split <;> rename_i hlength
  · have hany : data.tail.any (· > DEVICE_STATE_MAX) = true ↔ ¬ ∀ state ∈ data.tail, state ≤ 4 := by
      simp [List.any_eq_true, DEVICE_STATE_MAX]
    split <;> rename_i h
    · simp [hany.mp h]
    · simp [hlength]
      simpa [hany] using h
  · simp [hlength]

theorem handle_recovery_mode_command_isSome (s : State) (data : List UInt8) :
    (s.handle_recovery_mode_command data).2.isSome = true ↔ RecoveryModeCommand data := by
  have hlink : (s.handle_recovery_mode_command data).2 =
      ((s.link 0).handle_recovery_mode_command data).2 := by
    unfold State.handle_recovery_mode_command LinkState.handle_recovery_mode_command
    match data with
    | [_, mode, reason] =>
      dsimp only
      split <;> rfl
    | [] | [_] | [_, _] | _ :: _ :: _ :: _ :: _ => rfl
  rw [hlink, handle_recovery_mode_command_eq]
  split <;> rename_i h <;> simp [h]

/-- The six bytes of a frame, each under its name. -/
def device_health (data : List UInt8) : DeviceHealth where
  mission_device_health_sequence := octet data 0
  mission_icm42688_state := octet data 1
  mission_as5047d_state := octet data 2
  mission_lps25hb_state := octet data 3
  mission_ssc_state := octet data 4
  mission_sd_state := octet data 5

theorem cache_decoded {data : List UInt8} {health : Vector UInt8 6}
    (h : decode_device_health data = some health) :
    cache_device_health health = device_health data := by
  unfold decode_device_health at h
  split at h <;> rename_i hlength
  · split at h
    · simp at h
    · obtain rfl := Option.some.inj h
      simp [cache_device_health, device_health, octet, Vector.get, hlength]
  · simp at h

/-! ## The ledger -/

structure Ledger where
  tx_success : UInt32
  tx_error : UInt32
  rx_success : UInt32
  rx_error : UInt32
  recovery_enter_sent : Bool
  health : DeviceHealth

def ledger (w : CanCommunicationTask) : Ledger where
  tx_success := w.can_tx_success_count
  tx_error := w.can_tx_error_count
  rx_success := w.can_rx_success_count
  rx_error := w.can_rx_error_count
  recovery_enter_sent := w.recovery_enter_sent
  health := w.device_health

/-- A frame that enters the recovery mode. -/
def enters (frame : CanFrame) : Prop := frame.id = .Standard 0x014 ∧ RecoveryModeCommand frame.data

instance (frame : CanFrame) : Decidable (enters frame) := inferInstanceAs (Decidable (_ ∧ _))

/-- A frame with a valid device health. -/
def tells_health (frame : CanFrame) : Prop :=
  frame.id = .Standard CAN_ID_DEVICE_HEALTH ∧ DeviceHealthFormat frame.data

instance (frame : CanFrame) : Decidable (tells_health frame) :=
  inferInstanceAs (Decidable (_ ∧ _))

/-- What a frame changes. -/
def enter_frame (l : Ledger) (frame : CanFrame) : Ledger where
  tx_success := l.tx_success
  tx_error := l.tx_error
  rx_success := l.rx_success
  rx_error := if Accepted frame.id frame.data then l.rx_error else l.rx_error + 1
  recovery_enter_sent := if enters frame then true else l.recovery_enter_sent
  health := if tells_health frame then device_health frame.data else l.health

theorem log_raw_ledger (w : CanCommunicationTask) (raw : RawCanRecord) :
    ledger (w.log_raw raw) = ledger w := by
  unfold log_raw
  split <;> rfl

theorem receive_mode_ledger (w : CanCommunicationTask) (data : List UInt8) :
    ledger (w.receive_mode data) =
      if RecoveryModeCommand data then { ledger w with recovery_enter_sent := true }
      else { ledger w with rx_error := (ledger w).rx_error + 1 } := by
  have hsome := handle_recovery_mode_command_isSome w.path.state data
  unfold receive_mode
  split <;> rename_i hmode <;> rw [hmode] at hsome
  · rw [if_pos (hsome.mp rfl)]
    rfl
  · rw [if_neg (by simp [← hsome])]
    rfl

theorem receive_device_health_ledger (w : CanCommunicationTask) (data : List UInt8) :
    ledger (w.receive_device_health data) =
      if DeviceHealthFormat data then { ledger w with health := device_health data }
      else { ledger w with rx_error := (ledger w).rx_error + 1 } := by
  have hsome := decode_device_health_eq data
  unfold receive_device_health
  split <;> rename_i hdecode <;> rw [hdecode] at hsome
  · rw [if_pos (hsome.mp rfl), ← cache_decoded hdecode]
    rfl
  · rw [if_neg (by simp [← hsome])]
    rfl

theorem receive_message_ledger (w : CanCommunicationTask) (identifier : UInt16) (data : List UInt8)
    (received_at_ms : UInt64) :
    ledger (w.receive_message identifier data received_at_ms) =
      if Format identifier data then ledger w
      else { ledger w with rx_error := (ledger w).rx_error + 1 } := by
  have hok := decode_standard_isOk identifier data
  unfold receive_message
  split <;> rename_i hdecode <;> rw [hdecode] at hok
  · rw [if_pos (hok.mp rfl)]
    rfl
  · have hnot : ¬ Format identifier data := fun h => Bool.false_ne_true (hok.mpr h)
    rw [if_neg hnot]
    rfl

theorem handle_received_frame_ledger (w : CanCommunicationTask) (frame : CanFrame)
    (received_at_ms : UInt64) :
    ledger (w.handle_received_frame frame received_at_ms) = enter_frame (ledger w) frame := by
  unfold handle_received_frame enter_frame enters tells_health
  rcases frame with ⟨id, data, standard, fits⟩
  cases id with
  | Extended id => simp [Accepted, ledger, count_rx_error]
  | Standard identifier =>
    rw [← log_raw_ledger w (CanFrame.raw ⟨.Standard identifier, data, standard, fits⟩ identifier
      received_at_ms)]
    dsimp only
    generalize w.log_raw _ = v
    unfold Accepted
    by_cases hmode : identifier = 0x014
    · subst hmode
      rw [if_pos rfl, receive_mode_ledger]
      by_cases hcommand : RecoveryModeCommand data <;> simp [hcommand, CAN_ID_DEVICE_HEALTH]
    · rw [if_neg hmode]
      by_cases hhealth : identifier = CAN_ID_DEVICE_HEALTH
      · subst hhealth
        rw [if_pos rfl, receive_device_health_ledger]
        by_cases hformat : DeviceHealthFormat data <;> simp [hformat, CAN_ID_DEVICE_HEALTH]
      · rw [if_neg hhealth, receive_message_ledger]
        by_cases hformat : Format identifier data <;> simp [hformat, hmode, hhealth]

/-- What a report changes. -/
def enter (l : Ledger) : CanReport → Ledger
  | .attempted _ none => { l with tx_success := l.tx_success + 1 }
  | .attempted _ (some _) => { l with tx_error := l.tx_error + 1 }
  | .received frame _ => enter_frame { l with rx_success := l.rx_success + 1 } frame
  | .receive_error _ => { l with rx_error := l.rx_error + 1 }
  | _ => l

/-- The driver has no entry. -/
theorem enter_fed (l : Ledger) (state : CanRuntimeState) (e : Option CanRuntimeEvent) :
    (fed state e).2.foldl enter l = l := by
  cases e with
  | none => rfl
  | some e =>
    unfold fed
    dsimp only
    split <;> rfl

theorem observe_ledger (w : CanCommunicationTask) (frame : CanFrame) :
    ledger (w.observe frame) = ledger w := by
  unfold observe
  split <;> rfl

theorem arm_ledger {w v : CanCommunicationTask} {reports : List CanReport} (h : Arm w v reports) :
    ledger v = reports.foldl enter (ledger w) := by
  cases h with
  | path | raw_can_log_receive | power_tick | clear_event_flags => rfl
  | lock =>
    rw [recover_eq, enter_fed]
    rfl
  | @transmitted message transmission hcan =>
    unfold step_transmitted
    split
    · rfl
    · unfold transmit_failed
      dsimp only
      split
      · rfl
      · rw [recover_eq, List.foldl_cons, enter_fed]
        rfl
  | @received frame received_at_ms hidle =>
    unfold step_received
    rw [handle_received_frame_ledger, List.foldl_cons, List.foldl_nil, enter,
      ← observe_ledger w frame]
    rfl
  | receive_error =>
    unfold step_receive_error
    dsimp only
    rw [recover_eq, List.foldl_cons, enter_fed]
    rfl
  | health_tick =>
    unfold step_health_tick
    dsimp only
    rw [recover_eq, List.foldl_cons, enter_fed]
    rfl

/-! ## What the entries come to -/

def no_health : DeviceHealth where
  mission_device_health_sequence := 0
  mission_icm42688_state := 0
  mission_as5047d_state := 0
  mission_lps25hb_state := 0
  mission_ssc_state := 0
  mission_sd_state := 0

def Ledger.empty : Ledger where
  tx_success := 0
  tx_error := 0
  rx_success := 0
  rx_error := 0
  recovery_enter_sent := false
  health := no_health

def sent : CanReport → Bool
  | .attempted _ none => true
  | _ => false

def not_sent : CanReport → Bool
  | .attempted _ (some _) => true
  | _ => false

def came : CanReport → Bool
  | .received _ _ => true
  | _ => false

/-- An error of the driver, or a frame that is of no declared format. -/
def faulty : CanReport → Bool
  | .receive_error _ => true
  | .received frame _ => ¬ Accepted frame.id frame.data
  | _ => false

def entered : CanReport → Bool
  | .received frame _ => enters frame
  | _ => false

def health_frame : CanReport → Option (List UInt8)
  | .received frame _ => if tells_health frame then some frame.data else none
  | _ => none

/-- The totals of a history. -/
def total (past : List CanReport) : Ledger where
  tx_success := .ofNat (past.countP sent)
  tx_error := .ofNat (past.countP not_sent)
  rx_success := .ofNat (past.countP came)
  rx_error := .ofNat (past.countP faulty)
  recovery_enter_sent := past.any entered
  health := ((newest health_frame past).map device_health).getD no_health

theorem total_concat (past : List CanReport) (r : CanReport) :
    total (past ++ [r]) = enter (total past) r := by
  unfold total
  rcases r with ⟨message, _ | error⟩ | ⟨frame, received_at_ms⟩ | error | health | _ |
    ⟨reading, status⟩ | record | now_ms | ⟨flags, revision⟩
  case received =>
    simp only [enter, enter_frame, List.countP_append, List.countP_singleton, List.any_append,
      newest_concat, sent, not_sent, came, faulty, health_frame]
    by_cases haccepted : Accepted frame.id frame.data <;> by_cases henters : enters frame <;>
      by_cases hhealth : tells_health frame <;>
        simp [entered, haccepted, henters, hhealth, UInt32.ofNat_add]
  all_goals
    simp [enter, sent, not_sent, came, faulty, entered, health_frame, UInt32.ofNat_add]

theorem foldl_enter (past : List CanReport) : past.foldl enter .empty = total past := by
  induction past using List.reverseRecOn with
  | nil => rfl
  | append_singleton past r ih => rw [List.foldl_concat, ih, total_concat]

/-! ## Every run -/

/-- The ledger is kept from the beginning. -/
def Kept (past : List CanReport) (w : CanCommunicationTask) : Prop :=
  ledger w = past.foldl enter .empty

theorem kept : Invariant Kept where
  start _ := rfl
  arm h arm := by
    unfold Kept at *
    rw [List.foldl_append, ← h, arm_ledger arm]
  publish h _ := by
    unfold Kept at *
    rw [List.foldl_append, ← h]
    rfl

/-- The counters are the counts of the whole history. An accepted frame is no error, and every other
one is. The device health is that of the last valid frame. -/
theorem counters_of_history {past : List CanReport} {w : CanCommunicationTask}
    (run : Machine.Run machine Machine.anyStep past w) :
    w.can_tx_success_count = .ofNat (past.countP sent) ∧
      w.can_tx_error_count = .ofNat (past.countP not_sent) ∧
      w.can_rx_success_count = .ofNat (past.countP came) ∧
      w.can_rx_error_count = .ofNat (past.countP faulty) ∧
      w.recovery_enter_sent = past.any entered ∧
      w.device_health = ((newest health_frame past).map device_health).getD no_health := by
  have h : ledger w = total past := (kept.run run).trans (foldl_enter past)
  exact ⟨congrArg Ledger.tx_success h, congrArg Ledger.tx_error h, congrArg Ledger.rx_success h,
    congrArg Ledger.rx_error h, congrArg Ledger.recovery_enter_sent h, congrArg Ledger.health h⟩

/-- A device health, a malformed one, an extended identifier and an error of the driver. -/
def device_frame (data : List UInt8) (h : (CanFrame.new CAN_ID_DEVICE_HEALTH data).isSome = true) :
    CanFrame :=
  (CanFrame.new CAN_ID_DEVICE_HEALTH data).get h

def extended_frame : CanFrame where
  id := .Extended 0x10b
  data := []
  standard := fun _ heq => CanId.noConfusion heq
  fits := Nat.zero_le 8

def mixed : List Action :=
  [.received (device_frame [7, 1, 2, 3, 4, 0] (Eq.refl true)) 100 calm,
    .received (device_frame [8, 1, 2, 3, 5, 0] (Eq.refl true)) 110 calm,
    .received extended_frame 120 calm, .receive_error .Other calm]

theorem counters_of_history_mixed : ∃ past w, Machine.Run machine Machine.anyStep past w ∧
    w.can_rx_success_count = 3 ∧ w.can_rx_error_count = 3 ∧
    w.device_health = device_health [7, 1, 2, 3, 4, 0] := by
  obtain ⟨past, w, run, hcame, hfaulty, hhealth⟩ :
      ∃ past w, Machine.Run machine Machine.anyStep past w ∧ past.countP came = 3 ∧
        past.countP faulty = 3 ∧ newest health_frame past = some [7, 1, 2, 3, 4, 0] :=
    Machine.exists_run (fun (_ : CanCommunicationTask) past => past.countP came = 3 ∧
      past.countP faulty = 3 ∧ newest health_frame past = some [7, 1, 2, 3, 4, 0])
      mixed ⟨calm.registers, rfl⟩ (fun _ _ _ => trivial) (by decide +kernel)
  obtain ⟨-, -, hsuccess, herror, -, hdevice⟩ := counters_of_history run
  rw [hcame] at hsuccess
  rw [hfaulty] at herror
  rw [hhealth] at hdevice
  exact ⟨past, w, run, hsuccess, herror, hdevice⟩

end Comboard.ReceivedFrames
