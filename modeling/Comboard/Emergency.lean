import Comboard.Code.EmergencyPath
import Comboard.LoraCodec
import Comboard.Verbatim

/-!
# An emergency is attempted once, in its turn, and ahead of other requests

What the CAN task has in hand and what waits for it make one queue.
-/

namespace Comboard.Emergency

open Lib EmergencyPath
open Verbatim (Hands MessageOf waitingFor)

/-! ## Emergencies -/

def emergency (message : CanTxMessage) : Bool := (emergency_failure_result message).isSome

/-- The emergency that an uplink command stands for. -/
def emergencyOf : UplinkCommand → Option CanTxMessage
  | .ActuatorEmergency transaction_id => some (.ActuatorEmergencyStop transaction_id)
  | .LiftoffDetectionEmergency transaction_id => some (.LiftoffEmergencyStop transaction_id)
  | _ => none

def accepted (past : List EmergencyPath.Report) : List CanTxMessage :=
  past.filterMap fun
    | .accepted command => emergencyOf command
    | _ => none

/-- The messages whose attempt has ended. -/
def ended (past : List EmergencyPath.Report) : List CanTxMessage :=
  past.filterMap fun
    | .attempted message _ => some message
    | _ => none

def inHand : CanTask → List CanTxMessage
  | .Transmit message => [message]
  | _ => []

/-- The attempt that is going on, and what waits in `CAN_SAFETY_TX_CHANNEL`. -/
def onTheWay (w : CommandPath) : List CanTxMessage :=
  inHand w.can ++ w.state.can_safety_tx_channel.items

/-- The result of an attempt that failed. -/
inductive Failure : CanTxMessage → CommandResult → Prop where
  | actuator {transaction_id : UInt8} :
      Failure (.ActuatorEmergencyStop transaction_id)
        { transaction_id, command := 0xf0, phase := .Failed, reason := .Timeout, detail := 0 }
  | liftoff {transaction_id : UInt8} :
      Failure (.LiftoffEmergencyStop transaction_id)
        { transaction_id, command := 0xf1, phase := .Failed, reason := .Timeout, detail := 0 }

theorem failure_result {message : CanTxMessage} (h : emergency message = true) :
    ∃ result, Failure message result ∧ emergency_failure_result message = some result := by
  cases message with
  | ActuatorEmergencyStop transaction_id => exact ⟨_, .actuator, rfl⟩
  | LiftoffEmergencyStop transaction_id => exact ⟨_, .liftoff, rfl⟩
  | _ => cases h

theorem control_not_emergency {message : CanTxMessage}
    (h : ∃ control, message = .RecoveryControl control) : emergency message = false := by
  obtain ⟨control, rfl⟩ := h
  rfl

/-! ## Only emergencies of the uplink -/

/-- `CAN_TX_CHANNEL` carries none. -/
structure Routed (w : CommandPath) : Prop where
  messages : ∀ message ∈ w.state.can_tx_channel.items, emergency message = false
  waits : ∀ message, waitingFor w.command = some message → emergency message = false

def Normal (message : CanTxMessage) : Prop := emergency message = false

theorem hands_normal (s : State) (command : UplinkCommand) :
    Hands Normal s (Command.process_command s command).1
      (Command.process_command s command).2.1 := by
  cases command with
  | ActuatorEmergency | LiftoffDetectionEmergency => exact ⟨rfl, rfl, nofun, nofun, .inl rfl⟩
  | _ =>
    apply Verbatim.hands_process_command
    intro message hmessage
    cases hmessage
    rfl

/-- The command task may have received a command first. -/
theorem hands_resume_normal {w : CommandPath} (routed : Routed w) :
    ∃ s : State, s.can_safety_tx_channel = w.state.can_safety_tx_channel ∧
      s.can_tx_channel = w.state.can_tx_channel ∧
      Hands Normal s w.step_command.1.state w.step_command.1.command := by
  unfold CommandPath.step_command
  cases hcommand : w.command with
  | Receive =>
    unfold Command.resume_command
    dsimp only
    split
    · exact ⟨w.state, rfl, rfl, rfl, rfl, nofun, nofun, .inl rfl⟩
    · rename_i command channel _
      exact ⟨{ w.state with uplink_command_channel := channel }, rfl, rfl, hands_normal _ command⟩
  | LockTracker request => exact ⟨w.state, rfl, rfl, Verbatim.hands_process_generic _ rfl⟩
  | SendForward request => exact ⟨w.state, rfl, rfl, Verbatim.hands_send_forward _ rfl⟩
  | SendGnss value transaction_id command =>
    exact ⟨w.state, rfl, rfl, Verbatim.hands_send_gnss _ _ _ _⟩
  | SendControl control command => exact ⟨w.state, rfl, rfl, Verbatim.hands_send_control _ _ rfl⟩
  | SendTime message =>
    exact ⟨w.state, rfl, rfl,
      Verbatim.hands_send_time _ (routed.waits message (by rw [hcommand]; rfl))⟩

theorem routed_hands {w w' : CommandPath} {s : State} (routed : Routed w)
    (hchannel : s.can_tx_channel = w.state.can_tx_channel)
    (hands : Hands Normal s w'.state w'.command) : Routed w' := by
  refine ⟨fun message hm => ?_, hands.waits⟩
  rcases hands.sent with hsame | ⟨new, hnew, hmore⟩
  · rw [hsame, hchannel] at hm
    exact routed.messages message hm
  · rw [hmore, hchannel] at hm
    rcases List.mem_append.mp hm with hm | hm
    · exact routed.messages message hm
    · rw [List.mem_singleton.mp hm]
      exact hnew

/-! ## The CAN task -/

/-- Neither of its channels has changed. -/
def Settled (s s' : State) : Prop :=
  s'.can_safety_tx_channel = s.can_safety_tx_channel ∧ s'.can_tx_channel = s.can_tx_channel

theorem transmit_succeeded_settled (s : State) (message : CanTxMessage) :
    Settled s (s.transmit_succeeded message) := by
  unfold State.transmit_succeeded
  split
  · split <;> exact ⟨rfl, rfl⟩
  · exact ⟨rfl, rfl⟩

theorem transmit_failed_settled (s : State) (message : CanTxMessage) :
    Settled s (s.transmit_failed message).1 := by
  refine ⟨?_, (Verbatim.transmit_failed_keeps s message).messages⟩
  unfold State.transmit_failed
  split
  · rfl
  · split
    · rfl
    · exact Verbatim.queue_some_result_safety _ _
    · rfl

theorem apply_failed_result_settled (s : State) (result : CommandResult) :
    Settled s (s.apply_failed_result result).1 :=
  ⟨Verbatim.queue_some_result_safety _ _, rfl⟩

/-- The CAN task is ready for the next message of `w`. -/
structure Served (w w' : CommandPath) : Prop where
  way : onTheWay w' = w.state.can_safety_tx_channel.items
  messages : w'.state.can_tx_channel = w.state.can_tx_channel
  command : w'.command = w.command

theorem Served.of_settled {w w' : CommandPath} {s : State} (h : Served { w with state := s } w')
    (settled : Settled w.state s) : Served w w' :=
  ⟨h.way.trans (congrArg Channel.items settled.1), h.messages.trans settled.2, h.command⟩

theorem served_next_safety (w : CommandPath) : Served w w.next_safety := by
  unfold CommandPath.next_safety
  split <;> rename_i hreceive
  · exact ⟨(Channel.try_receive_some hreceive).symm, rfl, rfl⟩
  · exact ⟨rfl, rfl, rfl⟩

theorem served_lock_failed (w : CommandPath) (result : CommandResult) :
    Served w (w.lock_failed result).1 := by
  unfold CommandPath.lock_failed
  split
  · exact ⟨rfl, rfl, rfl⟩
  · exact (served_next_safety _).of_settled (apply_failed_result_settled _ _)

theorem served_lock_result (w : CommandPath) (result : CommandResult) :
    Served w (w.lock_result result).1 := by
  unfold CommandPath.lock_result
  split <;> exact ⟨rfl, rfl, rfl⟩

theorem served_transmitted (w : CommandPath) (message : CanTxMessage) (sent : Bool) :
    Served w (w.step_transmitted message sent).1 := by
  unfold CommandPath.step_transmitted
  split
  · exact (served_next_safety _).of_settled (transmit_succeeded_settled _ _)
  · have settled := transmit_failed_settled w.state message
    split <;> rename_i hfailed <;> rw [hfailed] at settled
    · exact (served_next_safety _).of_settled settled
    · exact (served_lock_failed _ _).of_settled settled

/-- A received frame leaves nothing but `StopLogDump` requests. -/
structure Stopped (w w' : CommandPath) : Prop where
  hand : inHand w'.can = []
  keeps : Verbatim.CanKeeps w.state w'.state
  command : w'.command = w.command

theorem stopped_lock_result {w : CommandPath} (result : CommandResult) :
    Stopped w (w.lock_result result).1 := by
  unfold CommandPath.lock_result
  split <;> exact ⟨rfl, Verbatim.can_keeps_of_eq rfl rfl rfl, rfl⟩

theorem stopped_received {w : CommandPath} (hselect : w.can = .Select) (message : CanRxMessage)
    (received_at_ms : Nat) : Stopped w (w.step_received message received_at_ms).1 := by
  have hhand : inHand w.can = [] := by rw [hselect]; rfl
  have hcache : Verbatim.CanKeeps w.state (w.state.update_cache message received_at_ms).1 :=
    Verbatim.can_keeps_of_eq rfl rfl rfl
  unfold CommandPath.step_received
  dsimp only
  split
  · obtain ⟨hand, keeps, command⟩ := stopped_lock_result
      (w := { w with state := (w.state.update_cache message received_at_ms).1 }) _
    exact ⟨hand, hcache.trans keeps, command⟩
  · exact ⟨hhand, Verbatim.can_keeps_of_eq rfl rfl rfl, rfl⟩
  · exact ⟨hhand, ⟨rfl, rfl, Verbatim.apply_recovery_status_stops _ _⟩, rfl⟩
  · exact ⟨hhand, ⟨rfl, rfl, Verbatim.apply_recovery_log_data_stops _ _⟩, rfl⟩
  all_goals exact ⟨hhand, Verbatim.can_keeps_of_eq rfl rfl rfl, rfl⟩

/-! ## One step -/

/-- What a step makes of the messages on the way. -/
inductive Way (w : CommandPath) (a : CommandPath.Action) (w' : CommandPath) : Prop where
  | kept (hcan : w'.can = w.can)
      (hsafety : w'.state.can_safety_tx_channel = w.state.can_safety_tx_channel)
      (hended : attempts w.can a = []) (hrouted : Routed w')
  | served (served : Served w w') (hended : ended (attempts w.can a) = inHand w.can)
  | taken {message : CanTxMessage} (hempty : onTheWay w = [])
      (hmessage : w.state.can_tx_channel.items = message :: w'.state.can_tx_channel.items)
      (hway : onTheWay w' = [message]) (hcommand : w'.command = w.command)
      (hended : attempts w.can a = [])
  | stopped (hempty : onTheWay w = []) (stopped : Stopped w w') (hended : attempts w.can a = [])

theorem empty_of_no_message {w : CommandPath} (hselect : w.can = .Select)
    (h : w.no_message = true) : onTheWay w = [] := by
  unfold CommandPath.no_message at h
  rw [Bool.and_eq_true] at h
  rw [onTheWay, hselect, List.isEmpty_iff.mp h.1]
  rfl

theorem can_take_way {w w' : CommandPath} (hselect : w.can = .Select)
    (h : w.step_can_take = some w') : Way w .can_take w' := by
  unfold CommandPath.step_can_take at h
  split at h <;> rename_i hsafety
  · obtain rfl := Option.some.inj h
    exact .served ⟨(Channel.try_receive_some hsafety).symm, rfl, rfl⟩ (by rw [hselect]; rfl)
  · have hempty := Channel.try_receive_eq_none.mp hsafety
    split at h <;> rename_i hreceive
    · obtain rfl := Option.some.inj h
      refine .taken ?_ (Channel.try_receive_some hreceive) ?_ rfl rfl
      · rw [onTheWay, hselect, hempty]
        rfl
      · rw [onTheWay]
        dsimp only
        rw [hempty]
        rfl
    · simp at h

theorem served_hand {w w' : CommandPath} {a : CommandPath.Action} (served : Served w w')
    (hand : inHand w.can = []) (hended : attempts w.can a = []) : Way w a w' :=
  .served served (by rw [hended, hand]; rfl)

theorem Routed.of_same {w w' : CommandPath} (routed : Routed w) (hcommand : w'.command = w.command)
    (hmessages : w'.state.can_tx_channel = w.state.can_tx_channel) : Routed w' :=
  ⟨by rw [hmessages]; exact routed.messages, by rw [hcommand]; exact routed.waits⟩

theorem Way.routed {w w' : CommandPath} {a : CommandPath.Action} (way : Way w a w')
    (routed : Routed w) : Routed w' := by
  cases way with
  | kept _ _ _ hrouted => exact hrouted
  | served served => exact routed.of_same served.command served.messages
  | taken _ hmessage _ hcommand =>
    refine ⟨fun message hm => routed.messages message ?_, by rw [hcommand]; exact routed.waits⟩
    rw [hmessage]
    exact List.mem_cons_of_mem _ hm
  | stopped _ stopped => exact routed.of_same stopped.command stopped.keeps.messages

/-- Apart from the uplink, which has a model of its own. -/
theorem step_way {w w' : CommandPath} {a : CommandPath.Action} {reports : List Report}
    (routed : Routed w) (ha : ∀ command, a ≠ .uplink command)
    (h : w.step a = some (w', reports)) : Way w a w' := by
  cases a with
  | uplink command => exact absurd rfl (ha command)
  | gnss_time_response request_id unix_seconds milliseconds =>
    obtain ⟨rfl, -⟩ := Prod.mk.inj (Option.some.inj h)
    refine .kept rfl rfl rfl ⟨fun message hm => ?_, routed.waits⟩
    rcases Channel.mem_offer hm with hm | rfl
    · exact routed.messages message hm
    · rfl
  | gnss_receive =>
    obtain ⟨_, -, h⟩ := Option.map_eq_some_iff.mp h
    obtain ⟨rfl, -⟩ := Prod.mk.inj h
    exact .kept rfl rfl rfl (routed.of_same rfl rfl)
  | lora_receive source =>
    obtain ⟨s, hreceive, h⟩ := Option.map_eq_some_iff.mp h
    obtain ⟨rfl, -⟩ := Prod.mk.inj h
    cases source
    case Periodic => simp [CommandPath.lora_receive] at hreceive
    all_goals
      obtain ⟨_, -, rfl⟩ := Option.map_eq_some_iff.mp hreceive
      exact .kept rfl rfl rfl (routed.of_same rfl rfl)
  | command =>
    simp only [CommandPath.step] at h
    split at h
    · simp at h
    · obtain ⟨s, hsafety, hmessages, hands⟩ := hands_resume_normal routed
      obtain rfl : w.step_command.1 = w' := congrArg Prod.fst (Option.some.inj h)
      exact .kept rfl (hands.safety.trans hsafety) rfl (routed_hands routed hmessages hands)
  | can_take =>
    simp only [CommandPath.step] at h
    split at h <;> rename_i hselect
    · obtain ⟨v, htake, h⟩ := Option.map_eq_some_iff.mp h
      obtain ⟨rfl, -⟩ := Prod.mk.inj h
      exact can_take_way hselect htake
    · simp at h
  | can_transmitted sent =>
    simp only [CommandPath.step] at h
    split at h <;> rename_i hcan
    · rename_i message
      obtain rfl : (w.step_transmitted message sent).1 = w' := congrArg Prod.fst (Option.some.inj h)
      exact .served (served_transmitted w message sent) (by rw [hcan]; rfl)
    · simp at h
  | can_receive message received_at_ms =>
    simp only [CommandPath.step] at h
    split at h <;> rename_i hselect
    · split at h <;> rename_i hempty
      · obtain rfl : (w.step_received message received_at_ms).1 = w' :=
          congrArg Prod.fst (Option.some.inj h)
        exact .stopped (empty_of_no_message hselect hempty)
          (stopped_received hselect message received_at_ms) rfl
      · simp at h
    · simp at h
  | can_receive_mode data =>
    simp only [CommandPath.step] at h
    split at h <;> rename_i hselect
    · split at h <;> rename_i hempty
      · obtain ⟨rfl, -⟩ := Prod.mk.inj (Option.some.inj h)
        exact .stopped (empty_of_no_message hselect hempty)
          ⟨by rw [hselect]; rfl, Verbatim.recovery_mode_frame_keeps w.state data, rfl⟩ rfl
      · simp at h
    · simp at h
  | can_lock =>
    simp only [CommandPath.step] at h
    split at h <;> rename_i hcan
    · rename_i result
      split at h
      · simp at h
      · obtain rfl : (w.lock_failed result).1 = w' := congrArg Prod.fst (Option.some.inj h)
        exact served_hand (served_lock_failed w result) (by rw [hcan]; rfl) rfl
    · rename_i result
      split at h
      · simp at h
      · obtain rfl : (w.lock_result result).1 = w' := congrArg Prod.fst (Option.some.inj h)
        exact served_hand (served_lock_result w result) (by rw [hcan]; rfl) rfl
    · simp at h

/-- No emergency is lost or doubled, and none overtakes another. -/
theorem Way.conserves {w w' : CommandPath} {a : CommandPath.Action} (way : Way w a w')
    (routed : Routed w) :
    (ended (attempts w.can a)).filter emergency ++ (onTheWay w').filter emergency =
      (onTheWay w).filter emergency := by
  cases way with
  | kept hcan hsafety hended =>
    rw [hended, onTheWay, onTheWay, hcan, hsafety]
    rfl
  | served served hended => rw [hended, served.way, ← List.filter_append, onTheWay]
  | @taken message hempty hmessage hway _ hended =>
    have hnormal : emergency message = false :=
      routed.messages message (by rw [hmessage]; exact List.mem_cons_self)
    rw [hended, hempty, hway]
    simp [ended, hnormal]
  | stopped hempty stopped hended =>
    have hsafety : w.state.can_safety_tx_channel.items = [] := (List.append_eq_nil_iff.mp hempty).2
    have hcontrols : (onTheWay w').filter emergency = [] := by
      rw [List.filter_eq_nil_iff, onTheWay, stopped.hand]
      intro message hm
      rcases stopped.keeps.safety message hm with hm | hcontrol
      · simp [hsafety] at hm
      · simp [control_not_emergency hcontrol]
    rw [hended, hempty, hcontrols]
    rfl

/-- The CAN task selects a message. -/
inductive Begins (w w' : CommandPath) (message : CanTxMessage) : Prop where
  | safety (hmessage : w.state.can_safety_tx_channel.items =
      message :: w'.state.can_safety_tx_channel.items)
  | normal (hempty : w.state.can_safety_tx_channel.items = [])
      (hmessage : w.state.can_tx_channel.items = message :: w'.state.can_tx_channel.items)

/-- The attempt goes on, or it has just begun. -/
theorem Way.begins {w w' : CommandPath} {a : CommandPath.Action} {message : CanTxMessage}
    (way : Way w a w') (hcan : w'.can = .Transmit message) :
    (w.can = .Transmit message ∧ attempts w.can a = []) ∨ Begins w w' message := by
  have hway : onTheWay w' = message :: w'.state.can_safety_tx_channel.items := by
    rw [onTheWay, hcan]
    rfl
  cases way with
  | kept hsame _ hended => exact .inl ⟨hsame ▸ hcan, hended⟩
  | served served => exact .inr (.safety (served.way.symm.trans hway))
  | taken hempty hmessage htaken =>
    obtain ⟨rfl, -⟩ := List.cons.inj (hway.symm.trans htaken)
    exact .inr (.normal (List.append_eq_nil_iff.mp hempty).2 hmessage)
  | stopped _ stopped =>
    have hand := stopped.hand
    rw [hcan] at hand
    cases hand

/-! ## Every run -/

structure Accounted (past : List EmergencyPath.Report) (w : EmergencyPath) : Prop where
  /-- Each accepted emergency has been attempted, is in hand, or still waits, in the order in which
  they came. -/
  in_order : accepted past = (ended past ++ inHand w.path.can).filter emergency ++
    w.path.state.can_safety_tx_channel.items.filter emergency ++ w.waiting.toList
  uplinked : ∀ command, .accepted command ∈ past → Verbatim.Uplinked command
  waits : ∀ message, w.waiting = some message → emergency message = true
  routed : Routed w.path

/-- The emergencies that have not been attempted. -/
def left (w : EmergencyPath) : List CanTxMessage :=
  (onTheWay w.path).filter emergency ++ w.waiting.toList

theorem in_order_iff {past : List EmergencyPath.Report} {w : EmergencyPath} :
    accepted past = (ended past ++ inHand w.path.can).filter emergency ++
        w.path.state.can_safety_tx_channel.items.filter emergency ++ w.waiting.toList ↔
      accepted past = (ended past).filter emergency ++ left w := by
  unfold left onTheWay
  simp only [List.filter_append, List.append_assoc]

theorem accepted_append (past new : List EmergencyPath.Report) :
    accepted (past ++ new) = accepted past ++ accepted new := List.filterMap_append

theorem ended_append (past new : List EmergencyPath.Report) :
    ended (past ++ new) = ended past ++ ended new := List.filterMap_append

theorem accounted_start : Accounted [] .start :=
  ⟨rfl, nofun, nofun, nofun, nofun⟩

/-- An emergency that is sent is the last one left. -/
theorem send_safety_left (w : EmergencyPath) {message : CanTxMessage}
    (h : emergency message = true) :
    left (w.send_safety message) = (onTheWay w.path).filter emergency ++ [message] := by
  unfold EmergencyPath.send_safety
  split <;> rename_i hsend
  · unfold left onTheWay
    dsimp only
    rw [Channel.try_send_some hsend]
    simp [List.filter_append, h]
  · rfl

theorem send_safety_routed {w : EmergencyPath} (routed : Routed w.path) (message : CanTxMessage) :
    Routed (w.send_safety message).path := by
  unfold EmergencyPath.send_safety
  split <;> exact ⟨routed.messages, routed.waits⟩

theorem send_safety_waits {w : EmergencyPath} {message waiting : CanTxMessage}
    (h : emergency message = true) (hwaiting : (w.send_safety message).waiting = some waiting) :
    emergency waiting = true := by
  unfold EmergencyPath.send_safety at hwaiting
  split at hwaiting <;> cases hwaiting
  exact h

/-- A command that is no emergency leaves the emergencies alone. -/
inductive Received (w : EmergencyPath) : UplinkCommand → EmergencyPath → Prop where
  | emergency {command : UplinkCommand} {message : CanTxMessage}
      (hof : emergencyOf command = some message) (hmessage : emergency message = true) :
      Received w command (w.send_safety message)
  | other {command : UplinkCommand} {w' : EmergencyPath} (hof : emergencyOf command = none)
      (hleft : left w' = left w) (hwaiting : w'.waiting = w.waiting)
      (hrouted : Routed w.path → Routed w'.path) : Received w command w'

theorem received (w : EmergencyPath) (command : UplinkCommand) :
    Received w command (w.receive command) := by
  cases command with
  | ActuatorEmergency | LiftoffDetectionEmergency => exact .emergency rfl rfl
  | _ => exact .other rfl rfl rfl fun routed => ⟨routed.messages, routed.waits⟩

theorem accounted_frame {past reports : List EmergencyPath.Report} {w w' : EmergencyPath}
    {bytes : Vector UInt8 UPLINK_FRAME_LENGTH} (accounted : Accounted past w)
    (hwaiting : w.waiting = none) (h : w.step_frame bytes = (w', reports)) :
    Accounted (past ++ reports) w' := by
  obtain ⟨in_order, uplinked, waits, routed⟩ := accounted
  unfold EmergencyPath.step_frame at h
  split at h <;> rename_i hdecode <;> obtain ⟨rfl, rfl⟩ := Prod.mk.inj h
  · rename_i command
    have huplinked : ∀ c, .accepted c ∈ past ++ [EmergencyPath.Report.accepted command] →
        Verbatim.Uplinked c := by
      intro c hc
      rcases List.mem_append.mp hc with hc | hc
      · exact uplinked c hc
      · cases List.mem_singleton.mp hc
        exact ⟨bytes, hdecode⟩
    have hended : ended (past ++ [.accepted command]) = ended past := by
      rw [ended_append]
      exact List.append_nil _
    have hreceived := received w command
    generalize w.receive command = w' at hreceived ⊢
    cases hreceived with
    | @emergency message hof hmessage =>
      have haccepted : accepted [.accepted command] = [message] := by simp [accepted, hof]
      refine ⟨in_order_iff.mpr ?_, huplinked, fun _ => send_safety_waits hmessage,
        send_safety_routed routed message⟩
      rw [accepted_append, in_order_iff.mp in_order, haccepted, hended,
        send_safety_left w hmessage, left, hwaiting]
      simp
    | other hof hleft hsame hrouted =>
      have haccepted : accepted [.accepted command] = [] := by simp [accepted, hof]
      refine ⟨in_order_iff.mpr ?_, huplinked, by rw [hsame]; exact waits, hrouted routed⟩
      rw [accepted_append, in_order_iff.mp in_order, haccepted, hended, hleft, List.append_nil]
  · rw [List.append_nil]
    exact ⟨in_order, uplinked, waits, routed⟩

theorem accounted_enter {past : List EmergencyPath.Report} {w : EmergencyPath}
    {message : CanTxMessage} (accounted : Accounted past w) (hwaiting : w.waiting = some message) :
    Accounted past (w.send_safety message) := by
  have hmessage := accounted.waits message hwaiting
  refine ⟨in_order_iff.mpr ?_, accounted.uplinked, fun _ => send_safety_waits hmessage,
    send_safety_routed accounted.routed message⟩
  rw [send_safety_left w hmessage, in_order_iff.mp accounted.in_order, left, hwaiting]
  rfl

/-- A step of the other tasks. -/
theorem step_path {w w' : EmergencyPath} {a : CommandPath.Action}
    {reports : List EmergencyPath.Report}
    (h : machine.step w (.path a) = some (w', reports)) :
    ∃ path reports', w.path.step a = some (path, reports') ∧ (∀ command, a ≠ .uplink command) ∧
      w' = { w with
        path
        lora_emergency_result_drop_count :=
          reports'.foldl count_drop w.lora_emergency_result_drop_count } ∧
      reports = attempts w.path.can a ++ reports'.map .path := by
  dsimp only [machine] at h
  unfold EmergencyPath.step at h
  split at h
  case h_1 heq => cases heq
  case h_2 heq => cases heq
  case h_3 => simp at h
  case h_4 action hnot heq =>
    cases heq
    obtain ⟨⟨path, reports'⟩, hstep, h⟩ := Option.map_eq_some_iff.mp h
    obtain ⟨rfl, rfl⟩ := Prod.mk.inj h
    exact ⟨path, reports', hstep, fun command hc => hnot command (by rw [hc]), rfl, rfl⟩

theorem not_accepted (can : CanTask) (a : CommandPath.Action) (reports : List Report)
    (command : UplinkCommand) :
    EmergencyPath.Report.accepted command ∉ attempts can a ++ reports.map .path := by
  intro h
  rcases List.mem_append.mp h with h | h
  · unfold attempts at h
    split at h
    · split at h <;> simp at h
    · simp at h
  · simp at h

theorem accepted_eq_nil {reports : List EmergencyPath.Report}
    (h : ∀ command, .accepted command ∉ reports) : accepted reports = [] := by
  rw [accepted, List.filterMap_eq_nil_iff]
  intro r hr
  cases r with
  | accepted command => exact absurd hr (h command)
  | _ => rfl

theorem accounted_path {past reports : List EmergencyPath.Report} {w w' : EmergencyPath}
    {a : CommandPath.Action} (accounted : Accounted past w)
    (h : machine.step w (.path a) = some (w', reports)) : Accounted (past ++ reports) w' := by
  obtain ⟨path, reports', hstep, hnot, rfl, rfl⟩ := step_path h
  obtain ⟨in_order, uplinked, waits, routed⟩ := accounted
  have way := step_way routed hnot hstep
  have hnone := not_accepted w.path.can a reports'
  have hended : ended (attempts w.path.can a ++ reports'.map .path) =
      ended (attempts w.path.can a) := by
    rw [ended_append]
    simp [ended]
  refine ⟨in_order_iff.mpr ?_, fun command hc => ?_, waits, way.routed routed⟩
  · rw [accepted_append, accepted_eq_nil hnone, List.append_nil, in_order_iff.mp in_order,
      ended_append, hended, List.filter_append, List.append_assoc, left, left,
      ← way.conserves routed, List.append_assoc]
  · exact uplinked command ((List.mem_append.mp hc).resolve_right (hnone command))

theorem accounted_step {past reports : List EmergencyPath.Report} {w w' : EmergencyPath}
    {a : EmergencyPath.Action} (accounted : Accounted past w)
    (h : machine.step w a = some (w', reports)) : Accounted (past ++ reports) w' := by
  cases a with
  | frame bytes =>
    simp only [machine, EmergencyPath.step] at h
    split at h <;> rename_i hwaiting
    · exact accounted_frame accounted hwaiting (Option.some.inj h)
    · simp at h
  | enter =>
    simp only [machine, EmergencyPath.step] at h
    split at h <;> rename_i hwaiting
    · split at h
      · simp at h
      · obtain ⟨rfl, rfl⟩ := Prod.mk.inj (Option.some.inj h)
        rw [List.append_nil]
        exact accounted_enter accounted hwaiting
    · simp at h
  | path action => exact accounted_path accounted h

theorem accounted_run {past : List EmergencyPath.Report} {w : EmergencyPath}
    (run : Machine.Run machine Machine.anyStep past w) : Accounted past w := by
  refine run.invariant (I := Accounted) ?_ fun _ _ _ _ _ _ accounted _ h => accounted_step accounted h
  rintro _ rfl
  exact accounted_start

/-! ## A failed attempt -/

theorem failure_transaction {command : UplinkCommand} {message : CanTxMessage}
    {result : CommandResult} (h : Verbatim.Uplinked command)
    (hof : emergencyOf command = some message) (failure : Failure message result) :
    result.transaction_id ≠ 0 := by
  obtain ⟨b, hdecode⟩ := h
  obtain ⟨framed, hread⟩ := (Verbatim.decode_uplink_iff b command).mp hdecode
  cases hread <;> cases hof <;> cases failure <;> exact framed.transaction

theorem failure_encodes {message : CanTxMessage} {result : CommandResult}
    (failure : Failure message result) (h : result.transaction_id ≠ 0) :
    ∃ frame, (ApplicationPacket.CommandResult result.packet).encode = .ok frame := by
  refine (LoraCodec.encode_iff _).mpr ⟨h, fun field hfield => ?_⟩
  have hid := result.transaction_id.toNat_lt
  cases failure <;>
    simp only [LoraCodec.layout, CommandResult.packet, List.mem_cons, List.not_mem_nil, or_false]
      at hfield hid <;>
    rcases hfield with rfl | rfl | rfl | rfl | rfl | rfl <;> first | exact hid | decide

/-- The one result of a failed attempt is queued, or it is dropped and counted. -/
inductive Answered (w w' : EmergencyPath) (message : CanTxMessage) (result : CommandResult) :
    List EmergencyPath.Report → Prop where
  | queued {frame : LoraFrame}
      (hframe : (ApplicationPacket.CommandResult result.packet).encode = .ok frame)
      (hqueued : w'.path.state.emergency_result_lora_channel.items =
        w.path.state.emergency_result_lora_channel.items ++ [.queued frame .EmergencyResult])
      (hcount : w'.lora_emergency_result_drop_count = w.lora_emergency_result_drop_count) :
      Answered w w' message result [.attempted message false, .path (.transmitted message false),
        .path (.emergency_result result.packet true)]
  | dropped (hfull : w.path.state.emergency_result_lora_channel.is_full = true)
      (hsame : w'.path.state.emergency_result_lora_channel =
        w.path.state.emergency_result_lora_channel)
      (hcount : w'.lora_emergency_result_drop_count = w.lora_emergency_result_drop_count + 1) :
      Answered w w' message result [.attempted message false, .path (.transmitted message false),
        .path (.emergency_result result.packet false)]

theorem next_safety_results (w : CommandPath) :
    w.next_safety.state.emergency_result_lora_channel =
      w.state.emergency_result_lora_channel := by
  unfold CommandPath.next_safety
  split <;> rfl

/-- What the CAN task does after the attempt has failed. -/
theorem step_failed {w : CommandPath} {message : CanTxMessage} {result : CommandResult}
    (h : emergency_failure_result message = some result) :
    w.step_transmitted message false =
      (CommandPath.next_safety { w with
        state := { w.state with
          toLoraChannels := (w.state.queue_emergency_result result).1 } },
        .transmitted message false :: (w.state.queue_emergency_result result).2) := by
  have hfailed : w.state.transmit_failed message =
      ({ w.state with toLoraChannels := (w.state.queue_emergency_result result).1 },
        (w.state.queue_emergency_result result).2, none) := by
    unfold State.transmit_failed
    rw [h]
  unfold CommandPath.step_transmitted
  rw [if_neg nofun, hfailed]

theorem failed_answered {past reports : List EmergencyPath.Report} {w w' : EmergencyPath}
    {message : CanTxMessage} (accounted : Accounted past w)
    (hcan : w.path.can = .Transmit message) (hmessage : emergency message = true)
    (h : machine.step w (.path (.can_transmitted false)) = some (w', reports)) :
    ∃ result, Failure message result ∧ Answered w w' message result reports := by
  obtain ⟨result, failure, hfailure⟩ := failure_result hmessage
  refine ⟨result, failure, ?_⟩
  have haccepted : message ∈ accepted past := by
    rw [accounted.in_order, hcan]
    simp [inHand, hmessage]
  obtain ⟨report, hreport, hof⟩ := List.mem_filterMap.mp haccepted
  have htransaction : result.transaction_id ≠ 0 := by
    cases report with
    | accepted command => exact failure_transaction (accounted.uplinked command hreport) hof failure
    | _ => cases hof
  obtain ⟨frame, hframe⟩ := failure_encodes failure htransaction
  obtain ⟨path, reports', hstep, -, rfl, rfl⟩ := step_path h
  simp only [CommandPath.step, hcan, step_failed hfailure, Option.some.injEq, Prod.mk.injEq] at hstep
  obtain ⟨rfl, rfl⟩ := hstep
  have hqueue : w.path.state.queue_emergency_result result =
      ({ w.path.state.toLoraChannels with
          emergency_result_lora_channel :=
            (w.path.state.emergency_result_lora_channel.offer (.queued frame .EmergencyResult)).1 },
        [.emergency_result result.packet
          (w.path.state.emergency_result_lora_channel.offer (.queued frame .EmergencyResult)).2]) := by
    unfold LoraChannels.queue_emergency_result
    rw [hframe]
  have hitems := Channel.offer_items w.path.state.emergency_result_lora_channel
    (.queued frame .EmergencyResult)
  have hsent := Channel.offer_sent w.path.state.emergency_result_lora_channel
    (.queued frame .EmergencyResult)
  rw [hqueue, hcan]
  cases hroom : (w.path.state.emergency_result_lora_channel.offer (.queued frame .EmergencyResult)).2
  with
  | true =>
    rw [hroom] at hitems
    refine .queued hframe ?_ rfl
    rw [next_safety_results]
    exact hitems
  | false =>
    have hfull : w.path.state.emergency_result_lora_channel.is_full = true := by
      simpa [hroom] using hsent
    refine .dropped hfull ?_ ?_
    · rw [next_safety_results]
      exact Channel.offer_full hfull
    · simp [count_drop, hframe]

/-! ## The path -/

theorem send_safety_can (w : EmergencyPath) (message : CanTxMessage) :
    (w.send_safety message).path.can = w.path.can := by
  unfold EmergencyPath.send_safety
  split <;> rfl

theorem receive_can (w : EmergencyPath) (command : UplinkCommand) :
    (w.receive command).path.can = w.path.can := by
  cases command with
  | ActuatorEmergency | LiftoffDetectionEmergency => exact send_safety_can _ _
  | _ => rfl

theorem step_begins {w w' : EmergencyPath} {a : EmergencyPath.Action}
    {reports : List EmergencyPath.Report} {message : CanTxMessage} (routed : Routed w.path)
    (h : machine.step w a = some (w', reports)) (hcan : w'.path.can = .Transmit message) :
    (w.path.can = .Transmit message ∧ ended reports = []) ∨ Begins w.path w'.path message := by
  cases a with
  | frame bytes =>
    simp only [machine, EmergencyPath.step, EmergencyPath.step_frame] at h
    split at h
    · split at h <;> obtain ⟨rfl, rfl⟩ := Prod.mk.inj (Option.some.inj h)
      · exact .inl ⟨(receive_can w _).symm.trans hcan, rfl⟩
      · exact .inl ⟨hcan, rfl⟩
    · simp at h
  | enter =>
    simp only [machine, EmergencyPath.step] at h
    split at h
    · split at h
      · simp at h
      · obtain ⟨rfl, rfl⟩ := Prod.mk.inj (Option.some.inj h)
        exact .inl ⟨(send_safety_can w _).symm.trans hcan, rfl⟩
    · simp at h
  | path action =>
    obtain ⟨path, reports', hstep, hnot, rfl, rfl⟩ := step_path h
    refine ((step_way routed hnot hstep).begins hcan).imp_left fun ⟨hsame, hended⟩ => ⟨hsame, ?_⟩
    rw [ended_append, hended]
    simp [ended]

/-- The accepted emergencies are attempted in the order in which they came, the others wait for
them, and each failure is told once. -/
theorem emergencies_attempted_in_order {past : List EmergencyPath.Report} {w : EmergencyPath}
    (run : Machine.Run machine Machine.anyStep past w) :
    accepted past = (ended past ++ inHand w.path.can).filter emergency ++
        w.path.state.can_safety_tx_channel.items.filter emergency ++ w.waiting.toList ∧
      (∀ a w' reports message, machine.step w a = some (w', reports) →
        w'.path.can = .Transmit message →
          (w.path.can = .Transmit message ∧ ended reports = []) ∨
            Begins w.path w'.path message) ∧
      (∀ w' reports message, w.path.can = .Transmit message → emergency message = true →
        machine.step w (.path (.can_transmitted false)) = some (w', reports) →
          ∃ result, Failure message result ∧ Answered w w' message result reports) := by
  have accounted := accounted_run run
  refine ⟨accounted.in_order, fun a w' reports message h hcan => ?_,
    fun w' reports message hcan hmessage h => failed_answered accounted hcan hmessage h⟩
  exact step_begins accounted.routed h hcan

/-- An actuator emergency and, right behind it, a liftoff emergency. -/
def twoEmergencies : List EmergencyPath.Action :=
  [.frame #v[0x55, 1, 7, 0, 0, 0, 0, 0, 0, 0, 0x53],
    .frame #v[0x55, 2, 8, 0, 0, 0, 0, 0, 0, 0, 0x5f], .path .can_take]

theorem emergencies_attempted_in_order_two : ∃ past w w' reports,
    Machine.Run machine Machine.anyStep past w ∧
      accepted past = [.ActuatorEmergencyStop 7, .LiftoffEmergencyStop 8] ∧
        machine.step w (.path (.can_transmitted false)) = some (w', reports) ∧
          ∃ result, Failure (.ActuatorEmergencyStop 7) result ∧
            Answered w w' (.ActuatorEmergencyStop 7) result reports := by
  obtain ⟨past, w, run, hcan, haccepted⟩ : ∃ past w, Machine.Run machine Machine.anyStep past w ∧
      w.path.can = .Transmit (.ActuatorEmergencyStop 7) ∧
        accepted past = [.ActuatorEmergencyStop 7, .LiftoffEmergencyStop 8] :=
    Machine.exists_run (fun (w : EmergencyPath) past =>
      w.path.can = .Transmit (.ActuatorEmergencyStop 7) ∧
        accepted past = [.ActuatorEmergencyStop 7, .LiftoffEmergencyStop 8])
      (s := EmergencyPath.start) twoEmergencies rfl (fun _ _ _ => trivial) (by decide +kernel)
  obtain ⟨⟨w', reports⟩, hstep⟩ :
      ∃ after, machine.step w (.path (.can_transmitted false)) = some after := by
    simp [machine, EmergencyPath.step, CommandPath.step, hcan]
  obtain ⟨-, -, hfailed⟩ := emergencies_attempted_in_order run
  exact ⟨past, w, w', reports, run, haccepted, hstep, hfailed _ _ _ hcan rfl hstep⟩

end Comboard.Emergency
