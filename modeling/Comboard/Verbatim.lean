import Comboard.Code.CanCodec
import Comboard.Code.CommandPath

/-!
# From the uplink to the CAN bus

An accepted uplink frame gives the bytes of its CAN frame as they came. Nothing else becomes a
generic command request.
-/

namespace Comboard.Verbatim

open Lib

abbrev Uplink := Vector UInt8 UPLINK_FRAME_LENGTH

/-! ## What the ground may send -/

/-- `b[i..j]` -/
def slice (b : Uplink) (i j : Nat) : List UInt8 := (b.toList.drop i).take (j - i)

/-- The frames that `decode_uplink` is to accept. -/
structure Accepted (b : Uplink) : Prop where
  header : b[0] = 0x55
  checksum : b[10] = xor_checksum (slice b 0 10)
  kind : b[1] ≤ 4
  transaction : b[2] ≠ 0
  generic : b[1] = 0 → b[3] ∉ ([0x20, 0x21, 0x22, 0x23, 0x24] : List UInt8)
  emergency : b[1] = 1 ∨ b[1] = 2 → ∀ byte ∈ slice b 3 10, byte = 0
  ground_time : b[1] = 4 → b[3] ≤ 2 ∧ b[8].toNat + 2 ^ 8 * b[9].toNat ≤ 999

/-- The bytes `4..10` -/
def args (b : Uplink) : Vector UInt8 6 := #v[b.get 4, b.get 5, b.get 6, b.get 7, b.get 8, b.get 9]

/-- The command a frame stands for. -/
inductive Read (b : Uplink) : UplinkCommand → Prop where
  | generic (kind : b[1] = 0) (allowed : is_deprecated_parachute_command b[3] = false) :
      Read b (.MissionGeneric { transaction_id := b[2], command := b[3], args := args b })
  | actuator (kind : b[1] = 1) (zero : ∀ byte ∈ slice b 3 10, byte = 0) :
      Read b (.ActuatorEmergency b[2])
  | liftoff (kind : b[1] = 2) (zero : ∀ byte ∈ slice b 3 10, byte = 0) :
      Read b (.LiftoffDetectionEmergency b[2])
  | com_board (kind : b[1] = 3) : Read b (.ComBoardLocal b[2] b[3] (args b))
  | ground_time {source : TimeSource} (kind : b[1] = 4) (hsource : b[3] = source.raw)
      (milliseconds : u16_from_le_bytes b[8] b[9] ≤ 999) :
      Read b (.GroundTimeResponse b[2] source (u32_from_le_bytes b[4] b[5] b[6] b[7])
        (u16_from_le_bytes b[8] b[9]))

/-- The checks that all kinds share. -/
structure Framed (b : Uplink) : Prop where
  header : b[0] = UPLINK_HEADER
  checksum : xor_checksum (b.toList.take (UPLINK_FRAME_LENGTH - 1)) = b[10]
  transaction : b[2] ≠ 0

def rawKind : UplinkKind → UInt8
  | .MissionGeneric => 0
  | .ActuatorEmergency => 1
  | .LiftoffDetectionEmergency => 2
  | .ComBoardLocal => 3
  | .GroundTimeResponse => 4

theorem kind_decode {raw : UInt8} {kind : UplinkKind} :
    UplinkKind.decode raw = some kind ↔ raw = rawKind kind := by
  unfold UplinkKind.decode
  split <;> cases kind <;> simp_all [rawKind]

theorem source_decode {raw : UInt8} {source : TimeSource} :
    TimeSource.decode raw = some source ↔ raw = source.raw := by
  unfold TimeSource.decode
  split <;> cases source <;> simp_all [TimeSource.raw]

theorem decode_uplink_iff (b : Uplink) (command : UplinkCommand) :
    decode_uplink b = .ok command ↔ Framed b ∧ Read b command := by
  have hany : (((b.toList.drop 3).take 7).any (· ≠ 0)) = false ↔ ∀ byte ∈ slice b 3 10, byte = 0 := by
    simp only [List.any_eq_false, decide_eq_true_eq, not_not]
    rfl
  constructor
  · intro h
    unfold decode_uplink at h
    split at h <;> rename_i hheader
    · simp at h
    split at h <;> rename_i hchecksum
    · simp at h
    split at h <;> rename_i hkind
    · simp at h
    split at h <;> rename_i htransaction
    · simp at h
    rw [kind_decode] at hkind
    refine ⟨⟨not_not.mp hheader, not_not.mp hchecksum, htransaction⟩, ?_⟩
    dsimp only at h
    split at h
    · split at h <;> rename_i hallowed
      · simp at h
      obtain rfl := Except.ok.inj h
      exact .generic hkind (by simpa using hallowed)
    · split at h <;> rename_i hzero
      · simp at h
      obtain rfl := Except.ok.inj h
      exact .actuator hkind (hany.mp (by simpa using hzero))
    · split at h <;> rename_i hzero
      · simp at h
      obtain rfl := Except.ok.inj h
      exact .liftoff hkind (hany.mp (by simpa using hzero))
    · obtain rfl := Except.ok.inj h
      exact .com_board hkind
    · split at h <;> rename_i hsource
      · simp at h
      split at h <;> rename_i hmilliseconds
      · simp at h
      obtain rfl := Except.ok.inj h
      exact .ground_time hkind (source_decode.mp hsource) (by simpa using hmilliseconds)
  · rintro ⟨⟨header, checksum, transaction⟩, hread⟩
    unfold decode_uplink
    have hkind (kind : UplinkKind) (h : b[1] = rawKind kind) : UplinkKind.decode b[1] = some kind :=
      kind_decode.mpr h
    have hargs : args b = #v[b[4], b[5], b[6], b[7], b[8], b[9]] := rfl
    rw [if_neg (not_not.mpr header), if_neg (not_not.mpr checksum)]
    cases hread with
    | generic kind allowed =>
      rw [hkind .MissionGeneric kind]
      simp [transaction, allowed, hargs]
    | actuator kind zero =>
      rw [hkind .ActuatorEmergency kind]
      dsimp only
      rw [if_neg transaction, hany.mpr zero]
      rfl
    | liftoff kind zero =>
      rw [hkind .LiftoffDetectionEmergency kind]
      dsimp only
      rw [if_neg transaction, hany.mpr zero]
      rfl
    | com_board kind =>
      rw [hkind .ComBoardLocal kind]
      simp [transaction, hargs]
    | ground_time kind hsource milliseconds =>
      rw [hkind .GroundTimeResponse kind, source_decode.mpr hsource]
      simp [transaction, milliseconds]

theorem allowed_iff (command : UInt8) : is_deprecated_parachute_command command = false ↔
    command ∉ ([0x20, 0x21, 0x22, 0x23, 0x24] : List UInt8) := by
  unfold is_deprecated_parachute_command
  rw [decide_eq_false_iff_not]
  simp [PARA_FREE, PARA_HOLD, PARA_MOVE_RELATIVE, SET_PARA_OPEN, SET_PARA_CLOSE]

/-- A byte up to four is one of five. -/
theorem le_four_iff (raw : UInt8) :
    raw ≤ 4 ↔ raw = 0 ∨ raw = 1 ∨ raw = 2 ∨ raw = 3 ∨ raw = 4 := by
  simp only [UInt8.le_iff_toNat_le, ← UInt8.toNat_inj, UInt8.reduceToNat]
  omega

theorem source_iff (raw : UInt8) : raw ≤ 2 ↔ ∃ source : TimeSource, raw = source.raw := by
  constructor
  · intro h
    have hraw : raw = 0 ∨ raw = 1 ∨ raw = 2 := by
      simp only [UInt8.le_iff_toNat_le, ← UInt8.toNat_inj, UInt8.reduceToNat] at h ⊢
      omega
    rcases hraw with rfl | rfl | rfl
    · exact ⟨.Invalid, rfl⟩
    · exact ⟨.Gnss, rfl⟩
    · exact ⟨.Ground, rfl⟩
  · rintro ⟨source, rfl⟩
    cases source <;> decide

theorem milliseconds_iff (a b : UInt8) :
    u16_from_le_bytes a b ≤ 999 ↔ a.toNat + 2 ^ 8 * b.toNat ≤ 999 := by
  rw [UInt16.le_iff_toNat_le, u16_from_le_bytes_toNat]
  rfl

/-- The grammar in one piece. -/
theorem accepted_iff (b : Uplink) : Accepted b ↔ Framed b ∧ ∃ command, Read b command := by
  constructor
  · intro h
    refine ⟨⟨h.header, h.checksum.symm, h.transaction⟩, ?_⟩
    rcases (le_four_iff _).mp h.kind with kind | kind | kind | kind | kind
    · exact ⟨_, .generic kind ((allowed_iff _).mpr (h.generic kind))⟩
    · exact ⟨_, .actuator kind (h.emergency (.inl kind))⟩
    · exact ⟨_, .liftoff kind (h.emergency (.inr kind))⟩
    · exact ⟨_, .com_board kind⟩
    · obtain ⟨hle, hmilliseconds⟩ := h.ground_time kind
      obtain ⟨source, hsource⟩ := (source_iff _).mp hle
      exact ⟨_, .ground_time kind hsource ((milliseconds_iff _ _).mpr hmilliseconds)⟩
  · rintro ⟨⟨header, checksum, transaction⟩, command, hread⟩
    have hother {k k' : UInt8} (kind : b[1] = k) (hne : k ≠ k') : b[1] ≠ k' := by
      rw [kind]
      exact hne
    have hnot {k : UInt8} (kind : b[1] = k) (h1 : k ≠ 1) (h2 : k ≠ 2) : ¬ (b[1] = 1 ∨ b[1] = 2) :=
      fun h => h.elim (hother kind h1) (hother kind h2)
    cases hread with
    | generic kind allowed =>
      exact ⟨header, checksum.symm, by rw [kind]; decide, transaction,
        fun _ => (allowed_iff _).mp allowed, fun h => absurd h (hnot kind (by decide) (by decide)),
        fun h => absurd h (hother kind (by decide))⟩
    | actuator kind zero | liftoff kind zero =>
      exact ⟨header, checksum.symm, by rw [kind]; decide, transaction,
        fun h => absurd h (hother kind (by decide)), fun _ => zero,
        fun h => absurd h (hother kind (by decide))⟩
    | com_board kind =>
      exact ⟨header, checksum.symm, by rw [kind]; decide, transaction,
        fun h => absurd h (hother kind (by decide)),
        fun h => absurd h (hnot kind (by decide) (by decide)),
        fun h => absurd h (hother kind (by decide))⟩
    | ground_time kind hsource milliseconds =>
      exact ⟨header, checksum.symm, by rw [kind]; decide, transaction,
        fun h => absurd h (hother kind (by decide)),
        fun h => absurd h (hnot kind (by decide) (by decide)),
        fun _ => ⟨(source_iff _).mpr ⟨_, hsource⟩, (milliseconds_iff _ _).mp milliseconds⟩⟩

/-! ## What the board makes of a command -/

/-- What the command task waits to send. -/
def waitingFor : CommandTask → Option CanTxMessage
  | .SendForward request => some (.GenericCommandRequest request)
  | .SendControl control _ => some (.RecoveryControl control)
  | .SendTime message => some message
  | _ => none

/-- `lora_rx_task` or the command task builds the message and hands it on, or waits to. -/
inductive Builds (s : State) (command : UplinkCommand) (message : CanTxMessage) : Prop where
  | received {s' : State} (h : CommandPath.uplink s command = some s')
      (hsent : s'.can_safety_tx_channel.items = s.can_safety_tx_channel.items ++ [message])
  | processed {s' : State} {task : CommandTask} {reports : List Report}
      (h : Command.process_command s command = (s', task, reports))
      (hsent : s'.can_tx_channel.items = s.can_tx_channel.items ++ [message] ∨
        waitingFor task = some message)

/-- The message that stands for a command. -/
inductive MessageOf : UplinkCommand → CanTxMessage → Prop where
  | generic {request : GenericCommandRequest} :
      MessageOf (.MissionGeneric request) (.GenericCommandRequest request)
  | actuator {transaction_id : UInt8} :
      MessageOf (.ActuatorEmergency transaction_id) (.ActuatorEmergencyStop transaction_id)
  | liftoff {transaction_id : UInt8} :
      MessageOf (.LiftoffDetectionEmergency transaction_id) (.LiftoffEmergencyStop transaction_id)
  | ground_time {request_id : UInt8} {source : TimeSource} {seconds : UInt32}
      {milliseconds : UInt16} :
      MessageOf (.GroundTimeResponse request_id source seconds milliseconds)
        (.TimeResponse request_id source seconds milliseconds)
  | control {transaction_id command : UInt8} {args : Vector UInt8 6} {value : LocalCommand}
      {session : RecoverySession} (hvalue : LocalCommand.decode command = some value)
      (hdump : value = .DumpInternalFlash ∨ value = .DumpMissionSd ∨ ∀ arg ∈ args.toList, arg = 0)
      (hrecovery : value ∈ [LocalCommand.Wake, .DumpInternalFlash, .DumpMissionSd, .StopDump,
        .ExitRecovery]) :
      MessageOf (.ComBoardLocal transaction_id command args) (.RecoveryControl {
        opcode := Command.recovery_opcode value
        source := Command.recovery_source session value
        transfer_id := transaction_id
        offset := Command.offset_arg args
        length := Command.length_arg args })

/-! ## What the command task hands on -/

/-- The command task hands on, or waits to hand on, only what is `allowed`. -/
structure Hands (allowed : CanTxMessage → Prop) (s s' : State) (task : CommandTask) : Prop where
  uplink : s'.uplink_command_channel = s.uplink_command_channel
  safety : s'.can_safety_tx_channel = s.can_safety_tx_channel
  lock : ∀ request, task = .LockTracker request → allowed (.GenericCommandRequest request)
  waits : ∀ message, waitingFor task = some message → allowed message
  sent : s'.can_tx_channel.items = s.can_tx_channel.items ∨ ∃ message, allowed message ∧
    s'.can_tx_channel.items = s.can_tx_channel.items ++ [message]

/-- Only the channels of the task count. -/
theorem Hands.of_same {allowed : CanTxMessage → Prop} {v s s' : State} {task : CommandTask}
    (h : Hands allowed v s' task) (huplink : v.uplink_command_channel = s.uplink_command_channel)
    (hsafety : v.can_safety_tx_channel = s.can_safety_tx_channel)
    (hsent : v.can_tx_channel = s.can_tx_channel) : Hands allowed s s' task :=
  ⟨h.uplink.trans huplink, h.safety.trans hsafety, h.lock, h.waits, hsent ▸ h.sent⟩

section Hands

variable {allowed : CanTxMessage → Prop} (s : State)

theorem hands_answer (transaction_id command : UInt8) (phase : CommandPhase)
    (reason : CommandReason) :
    Hands allowed s (Command.answer s transaction_id command phase reason).1
      (Command.answer s transaction_id command phase reason).2.1 :=
  ⟨rfl, rfl, nofun, nofun, .inl rfl⟩

/-- A task that waits for room has handed on nothing yet. -/
theorem hands_wait {message : CanTxMessage} {task : CommandTask} (h : allowed message)
    (hwaits : waitingFor task = some message) : Hands allowed s s task where
  uplink := rfl
  safety := rfl
  lock request hlock := by
    subst hlock
    cases hwaits
  waits m hm := by rwa [Option.some.inj (hm.symm.trans hwaits)]
  sent := .inl rfl

theorem hands_send_forward {request : GenericCommandRequest}
    (h : allowed (.GenericCommandRequest request)) :
    Hands allowed s (Command.send_forward s request).1
      (Command.send_forward s request).2.1 := by
  unfold Command.send_forward
  split <;> rename_i hsend
  · exact hands_wait s h rfl
  · exact ⟨rfl, rfl, nofun, nofun, .inr ⟨_, h, Channel.try_send_some hsend⟩⟩

theorem hands_process_generic {request : GenericCommandRequest}
    (h : allowed (.GenericCommandRequest request)) :
    Hands allowed s (Command.process_generic s request).1
      (Command.process_generic s request).2.1 := by
  unfold Command.process_generic
  split
  · refine ⟨rfl, rfl, ?_, nofun, .inl rfl⟩
    rintro _ ⟨⟩
    exact h
  · dsimp only
    split
    · apply Hands.of_same (hands_send_forward _ h) <;> rfl
    · exact ⟨rfl, rfl, nofun, nofun, .inl rfl⟩
    · exact ⟨rfl, rfl, nofun, nofun, .inl rfl⟩
    · exact ⟨rfl, rfl, nofun, nofun, .inl rfl⟩
    · exact ⟨rfl, rfl, nofun, nofun, .inl rfl⟩

theorem hands_send_gnss (value : GnssCommand) (transaction_id command : UInt8) :
    Hands allowed s (Command.send_gnss s value transaction_id command).1
      (Command.send_gnss s value transaction_id command).2.1 := by
  unfold Command.send_gnss
  split <;> exact ⟨rfl, rfl, nofun, nofun, .inl rfl⟩

theorem hands_send_control {control : RecoveryControl} (command : UInt8)
    (h : allowed (.RecoveryControl control)) :
    Hands allowed s (Command.send_control s control command).1
      (Command.send_control s control command).2.1 := by
  unfold Command.send_control
  split <;> rename_i hsend
  · exact hands_wait s h rfl
  · exact ⟨rfl, rfl, nofun, nofun, .inr ⟨_, h, Channel.try_send_some hsend⟩⟩

theorem hands_send_time {message : CanTxMessage} (h : allowed message) :
    Hands allowed s (Command.send_time s message).1
      (Command.send_time s message).2.1 := by
  unfold Command.send_time
  split <;> rename_i hsend
  · exact hands_wait s h rfl
  · exact ⟨rfl, rfl, nofun, nofun, .inr ⟨_, h, Channel.try_send_some hsend⟩⟩

theorem start_request_safety {s s' : RecoveryState} {pending : PendingRecovery}
    {offset length : UInt32} {reports : List Report}
    (h : Command.start_request s pending offset length = some (s', reports)) :
    s'.can_safety_tx_channel = s.can_safety_tx_channel := by
  unfold Command.start_request at h
  dsimp only at h
  split at h
  · simp at h
  · split at h <;> obtain ⟨rfl, -⟩ := Prod.mk.inj (Option.some.inj h) <;> rfl

theorem hands_process_recovery {transaction_id command : UInt8} {args : Vector UInt8 6}
    {value : LocalCommand}
    (h : allowed (.RecoveryControl {
      opcode := Command.recovery_opcode value
      source := Command.recovery_source s.recovery_session value
      transfer_id := transaction_id
      offset := Command.offset_arg args
      length := Command.length_arg args })) :
    Hands allowed s (Command.process_recovery s transaction_id command args value).1
      (Command.process_recovery s transaction_id command args value).2.1 := by
  unfold Command.process_recovery
  split
  · exact hands_answer s _ _ _ _
  · dsimp only
    split
    · apply Hands.of_same (hands_send_control _ command h) <;> rfl
    · split <;> rename_i hstart
      · exact hands_answer s _ _ _ _
      · apply Hands.of_same (hands_send_control _ command h)
        · rfl
        · exact start_request_safety hstart
        · rfl

theorem hands_process_local (transaction_id command : UInt8) (args : Vector UInt8 6)
    (h : ∀ message, MessageOf (.ComBoardLocal transaction_id command args) message →
      allowed message) :
    Hands allowed s (Command.process_local s transaction_id command args).1
      (Command.process_local s transaction_id command args).2.1 := by
  unfold Command.process_local
  split
  · exact hands_answer s _ _ _ _
  · rename_i value hvalue
    dsimp only
    split
    · exact hands_answer s _ _ _ _
    · rename_i hargs
      have hdump : value = .DumpInternalFlash ∨ value = .DumpMissionSd ∨
          ∀ arg ∈ args.toList, arg = 0 := by
        rw [not_and_or, not_not, decide_eq_true_eq, or_assoc] at hargs
        simpa only [Bool.not_eq_true, List.any_eq_false, decide_eq_true_eq, not_not] using hargs
      split
      · apply Hands.of_same (hands_answer _ _ _ _ _) <;> rfl
      · apply Hands.of_same (hands_answer _ _ _ _ _) <;> rfl
      · exact hands_send_gnss s _ _ _
      · exact hands_send_gnss s _ _ _
      · apply hands_process_recovery
        apply h
        refine .control hvalue hdump ?_
        cases value <;> simp_all

theorem hands_process_command (command : UplinkCommand)
    (h : ∀ message, MessageOf command message → allowed message) :
    Hands allowed s (Command.process_command s command).1
      (Command.process_command s command).2.1 := by
  cases command with
  | MissionGeneric request => exact hands_process_generic s (h _ .generic)
  | ActuatorEmergency | LiftoffDetectionEmergency => exact ⟨rfl, rfl, nofun, nofun, .inl rfl⟩
  | ComBoardLocal transaction_id command args =>
    exact hands_process_local s transaction_id command args h
  | GroundTimeResponse => exact hands_send_time s (h _ .ground_time)

end Hands

/-- What the board builds from a command is the message that stands for it. -/
theorem builds_message {s : State} {command : UplinkCommand} {message : CanTxMessage}
    (h : Builds s command message) : MessageOf command message := by
  have hgrows (items : List CanTxMessage) (m : CanTxMessage) : items ≠ items ++ [m] := by simp
  cases h with
  | received h hsent =>
    unfold CommandPath.uplink at h
    split at h
    · obtain ⟨channel, hsend, rfl⟩ := Option.map_eq_some_iff.mp h
      obtain rfl := Channel.eq_of_send hsend hsent
      exact .actuator
    · obtain ⟨channel, hsend, rfl⟩ := Option.map_eq_some_iff.mp h
      obtain rfl := Channel.eq_of_send hsend hsent
      exact .liftoff
    · obtain rfl := Option.some.inj h
      exact absurd hsent (hgrows _ _)
  | processed h hsent =>
    have hands : Hands (MessageOf command) s (Command.process_command s command).1
        (Command.process_command s command).2.1 := hands_process_command s command fun _ => id
    rw [h] at hands
    rcases hsent with hsent | hwaits
    · rcases hands.sent with hsame | ⟨m, hm, hmore⟩
      · exact absurd (hsame.symm.trans hsent) (hgrows _ _)
      · obtain ⟨-, heq⟩ := List.append_inj' (hmore.symm.trans hsent) rfl
        obtain rfl := List.singleton_inj.mp heq
        exact hm
    · exact hands.waits _ hwaits

/-! ## When a message is built -/

/-- Nothing keeps the board from building the message: a generic request is new to the tracker, an
emergency finds room, a dump or wake request finds no other pending, and an exit finds the beacon
on. -/
inductive Ready (s : State) : UplinkCommand → Prop where
  | generic {request : GenericCommandRequest} (hguard : s.tracker_guard = false)
      (hforward : (s.command_tracker.register request).2 = .Forward) :
      Ready s (.MissionGeneric request)
  | actuator {transaction_id : UInt8} (hroom : s.can_safety_tx_channel.is_full = false) :
      Ready s (.ActuatorEmergency transaction_id)
  | liftoff {transaction_id : UInt8} (hroom : s.can_safety_tx_channel.is_full = false) :
      Ready s (.LiftoffDetectionEmergency transaction_id)
  | ground_time {request_id : UInt8} {source : TimeSource} {seconds : UInt32}
      {milliseconds : UInt16} : Ready s (.GroundTimeResponse request_id source seconds milliseconds)
  | control {transaction_id command : UInt8} {args : Vector UInt8 6} {value : LocalCommand}
      (hvalue : LocalCommand.decode command = some value)
      (hdump : value = .DumpInternalFlash ∨ value = .DumpMissionSd ∨ ∀ arg ∈ args.toList, arg = 0)
      (hrecovery : value ∈ [LocalCommand.Wake, .DumpInternalFlash, .DumpMissionSd, .StopDump,
        .ExitRecovery])
      (hbeacon : value = .ExitRecovery → s.recovery_beacon_active = true)
      (hfree : value = .StopDump ∨ s.recovery_session.pending = none) :
      Ready s (.ComBoardLocal transaction_id command args)

/-- The message is handed on, or the task waits to. -/
def Sends (s : State) (message : CanTxMessage) (after : State × CommandTask × List Report) : Prop :=
  after.1.can_tx_channel.items = s.can_tx_channel.items ++ [message] ∨
    waitingFor after.2.1 = some message

theorem sends_forward (s : State) (request : GenericCommandRequest) :
    Sends s (.GenericCommandRequest request) (Command.send_forward s request) := by
  unfold Command.send_forward
  split <;> rename_i hsend
  · exact .inr rfl
  · exact .inl (Channel.try_send_some hsend)

theorem sends_control (s : State) (control : RecoveryControl) (command : UInt8) :
    Sends s (.RecoveryControl control) (Command.send_control s control command) := by
  unfold Command.send_control
  split <;> rename_i hsend
  · exact .inr rfl
  · exact .inl (Channel.try_send_some hsend)

theorem sends_time (s : State) (message : CanTxMessage) :
    Sends s message (Command.send_time s message) := by
  unfold Command.send_time
  split <;> rename_i hsend
  · exact .inr rfl
  · exact .inl (Channel.try_send_some hsend)

theorem sends_generic {s : State} {request : GenericCommandRequest}
    (hguard : s.tracker_guard = false)
    (hforward : (s.command_tracker.register request).2 = .Forward) :
    Sends s (.GenericCommandRequest request) (Command.process_generic s request) := by
  unfold Command.process_generic
  rw [if_neg (by simp [hguard])]
  dsimp only
  rw [hforward]
  exact sends_forward _ request

theorem sends_recovery {s : State} {value : LocalCommand} (transaction_id command : UInt8)
    (args : Vector UInt8 6) (hbeacon : value = .ExitRecovery → s.recovery_beacon_active = true)
    (hfree : value = .StopDump ∨ s.recovery_session.pending = none) :
    ∃ message, Sends s message (Command.process_recovery s transaction_id command args value) := by
  unfold Command.process_recovery
  rw [if_neg (fun h => h.2 (hbeacon h.1))]
  dsimp only
  split <;> rename_i hstop
  · exact ⟨_, sends_control { s with toRecoveryState := _ } _ command⟩
  · have hpending := hfree.resolve_left hstop
    split <;> rename_i hstart
    · unfold Command.start_request RecoverySession.start at hstart
      rw [hpending] at hstart
      dsimp only at hstart
      split at hstart
      · rename_i hnot
        exact absurd rfl hnot
      · split at hstart <;> cases hstart
    · exact ⟨_, sends_control { s with toRecoveryState := _ } _ command⟩

theorem sends_local {s : State} {transaction_id command : UInt8} {args : Vector UInt8 6}
    {value : LocalCommand} (hvalue : LocalCommand.decode command = some value)
    (hdump : value = .DumpInternalFlash ∨ value = .DumpMissionSd ∨ ∀ arg ∈ args.toList, arg = 0)
    (hrecovery : value ∈ [LocalCommand.Wake, .DumpInternalFlash, .DumpMissionSd, .StopDump,
      .ExitRecovery])
    (hbeacon : value = .ExitRecovery → s.recovery_beacon_active = true)
    (hfree : value = .StopDump ∨ s.recovery_session.pending = none) :
    ∃ message, Sends s message (Command.process_local s transaction_id command args) := by
  have hargs : ¬ (¬ (decide (value = .DumpInternalFlash ∨ value = .DumpMissionSd)) = true ∧
      args.toList.any (· ≠ 0) = true) := by
    rintro ⟨hno, hany⟩
    rcases hdump with hdump | hdump | hzero
    · simp [hdump] at hno
    · simp [hdump] at hno
    · obtain ⟨arg, hmem, hne⟩ := List.any_eq_true.mp hany
      exact of_decide_eq_true hne (hzero arg hmem)
  obtain ⟨message, sends⟩ := sends_recovery transaction_id command args hbeacon hfree
  refine ⟨message, ?_⟩
  unfold Command.process_local
  rw [hvalue]
  dsimp only
  rw [if_neg hargs]
  cases value with
  | StartLogging | StopLogging | GnssOn | GnssOff => simp at hrecovery
  | _ => exact sends

theorem builds_of_ready {s : State} {command : UplinkCommand} (h : Ready s command) :
    ∃ message, Builds s command message := by
  cases h with
  | generic hguard hforward =>
    exact ⟨_, .processed (Prod.eta _).symm (sends_generic hguard hforward)⟩
  | @actuator transaction_id hroom =>
    obtain ⟨channel, hsend, hitems⟩ :=
      Channel.try_send_room (.ActuatorEmergencyStop transaction_id) hroom
    have hreceived : CommandPath.uplink s (.ActuatorEmergency transaction_id) =
        some { s with can_safety_tx_channel := channel } := by simp [CommandPath.uplink, hsend]
    exact ⟨_, .received hreceived hitems⟩
  | @liftoff transaction_id hroom =>
    obtain ⟨channel, hsend, hitems⟩ :=
      Channel.try_send_room (.LiftoffEmergencyStop transaction_id) hroom
    have hreceived : CommandPath.uplink s (.LiftoffDetectionEmergency transaction_id) =
        some { s with can_safety_tx_channel := channel } := by simp [CommandPath.uplink, hsend]
    exact ⟨_, .received hreceived hitems⟩
  | ground_time => exact ⟨_, .processed (Prod.eta _).symm (sends_time s _)⟩
  | control hvalue hdump hrecovery hbeacon hfree =>
    obtain ⟨message, sends⟩ := sends_local hvalue hdump hrecovery hbeacon hfree
    exact ⟨message, .processed (Prod.eta _).symm sends⟩

/-! ## The bytes on the bus -/

/-- The CAN frame that carries an uplink frame: its identifier and its bytes. -/
inductive OnBus (b : Uplink) : UInt16 × List UInt8 → Prop where
  | generic (kind : b[1] = 0) : OnBus b (0x010, slice b 2 10)
  | actuator (kind : b[1] = 1) : OnBus b (0x001, slice b 2 3)
  | liftoff (kind : b[1] = 2) : OnBus b (0x002, slice b 2 3)
  | com_board {value : LocalCommand} {session : RecoverySession} (kind : b[1] = 3)
      (hvalue : LocalCommand.decode b[3] = some value)
      (hrecovery : value ∈ [LocalCommand.Wake, .DumpInternalFlash, .DumpMissionSd, .StopDump,
        .ExitRecovery]) :
      OnBus b (0x008, ((Command.recovery_opcode value).raw |||
        (Command.recovery_source session value).raw <<< 4) :: b[2] :: slice b 4 10)
  | ground_time (kind : b[1] = 4) : OnBus b (0x013, slice b 2 10)

theorem toList_bytes (b : Uplink) : b.toList =
    [b[0], b[1], b[2], b[3], b[4], b[5], b[6], b[7], b[8], b[9], b[10]] := by
  apply List.ext_getElem
  · simp
  · intro i h h'
    have hi : i < 11 := h'
    rw [Vector.getElem_toList]
    match i, hi with
    | 0, _ | 1, _ | 2, _ | 3, _ | 4, _ | 5, _ | 6, _ | 7, _ | 8, _ | 9, _ | 10, _ => rfl

theorem create_frame_on_bus {b : Uplink} {command : UplinkCommand} {message : CanTxMessage}
    (transaction : b[2] ≠ 0) (hread : Read b command) (hmessage : MessageOf command message) :
    ∃ frame, message.create_frame = .ok frame ∧ OnBus b frame := by
  cases hread with
  | generic kind =>
    cases hmessage
    refine ⟨_, ?_, .generic kind⟩
    unfold CanTxMessage.create_frame CanTxMessage.encode_payload
    dsimp only
    rw [if_neg transaction, slice, toList_bytes]
    rfl
  | actuator kind =>
    cases hmessage
    refine ⟨_, ?_, .actuator kind⟩
    unfold CanTxMessage.create_frame CanTxMessage.encode_payload
    dsimp only
    rw [if_neg transaction, slice, toList_bytes]
    rfl
  | liftoff kind =>
    cases hmessage
    refine ⟨_, ?_, .liftoff kind⟩
    unfold CanTxMessage.create_frame CanTxMessage.encode_payload
    dsimp only
    rw [if_neg transaction, slice, toList_bytes]
    rfl
  | com_board kind =>
    cases hmessage with
    | @control _ _ _ value session hvalue _ hrecovery =>
      refine ⟨_, ?_, @OnBus.com_board _ _ session kind hvalue hrecovery⟩
      unfold CanTxMessage.create_frame CanTxMessage.encode_payload
      dsimp only
      have hfits (x y z : UInt8) : ¬ u32_from_le_bytes x y z 0 > 0x00ffffff :=
        UInt32.not_lt.mpr (UInt32.le_iff_toNat_le.mpr (Nat.le_of_lt_succ (three_bytes_lt x y z)))
      rw [if_neg (not_or.mpr ⟨hfits _ _ _, hfits _ _ _⟩)]
      simp only [u32_to_le_bytes_from]
      rw [slice, toList_bytes]
      rfl
  | ground_time kind hsource milliseconds =>
    cases hmessage
    refine ⟨_, ?_, .ground_time kind⟩
    unfold CanTxMessage.create_frame CanTxMessage.encode_payload
    dsimp only
    rw [if_neg (by simpa using milliseconds), ← hsource]
    simp only [u32_to_le_bytes_from, u16_to_le_bytes_from]
    rw [slice, toList_bytes]
    rfl

/-! ## Different frames give different bytes -/

/-- The header, the kind and the checksum follow from the rest. -/
theorem eq_of_slice {b b' : Uplink} (framed : Framed b) (framed' : Framed b')
    (hkind : b[1] = b'[1]) (h : slice b 2 10 = slice b' 2 10) : b = b' := by
  have hheader : b[0] = b'[0] := framed.header.trans framed'.header.symm
  have hchecksum := framed.checksum
  have hchecksum' := framed'.checksum
  rw [slice, slice, toList_bytes, toList_bytes] at h
  rw [toList_bytes] at hchecksum hchecksum'
  obtain ⟨h2, h3, h4, h5, h6, h7, h8, h9⟩ : b[2] = b'[2] ∧ b[3] = b'[3] ∧ b[4] = b'[4] ∧
      b[5] = b'[5] ∧ b[6] = b'[6] ∧ b[7] = b'[7] ∧ b[8] = b'[8] ∧ b[9] = b'[9] := by
    simpa using h
  have htake : [b[0], b[1], b[2], b[3], b[4], b[5], b[6], b[7], b[8], b[9]] =
      [b'[0], b'[1], b'[2], b'[3], b'[4], b'[5], b'[6], b'[7], b'[8], b'[9]] := by
    rw [hheader, hkind, h2, h3, h4, h5, h6, h7, h8, h9]
  have hlast : b[10] = b'[10] :=
    hchecksum.symm.trans ((congrArg xor_checksum htake).trans hchecksum')
  apply Vector.toList_inj.mp
  rw [toList_bytes, toList_bytes, hlast]
  exact congrArg (· ++ [b'[10]]) htake

theorem slice_two (b : Uplink) : slice b 2 10 = b[2] :: b[3] :: slice b 4 10 := by
  rw [slice, slice, toList_bytes]
  rfl

theorem slice_zero {b : Uplink} (h : ∀ byte ∈ slice b 3 10, byte = 0) :
    slice b 2 10 = b[2] :: List.replicate 7 0 := by
  have hlength : (slice b 3 10).length = 7 := by
    rw [slice, toList_bytes]
    rfl
  have hzero : slice b 3 10 = List.replicate 7 0 := by
    rw [← hlength]
    exact List.eq_replicate_of_mem h
  rw [← hzero, slice, slice, toList_bytes]
  rfl

def rawLocal : LocalCommand → UInt8
  | .StartLogging => 108
  | .StopLogging => 109
  | .GnssOn => 103
  | .GnssOff => 104
  | .Wake => 119
  | .DumpInternalFlash => 102
  | .DumpMissionSd => 115
  | .StopDump => 120
  | .ExitRecovery => 101

theorem local_decode {raw : UInt8} {value : LocalCommand}
    (h : LocalCommand.decode raw = some value) : raw = rawLocal value := by
  unfold LocalCommand.decode at h
  split_ifs at h <;> cases h <;> assumption

/-- The first byte of a recovery control names the opcode and the source. -/
theorem control_byte {opcode opcode' : RecoveryOpcode} {source source' : RecoverySource}
    (h : opcode.raw ||| source.raw <<< 4 = opcode'.raw ||| source'.raw <<< 4) :
    opcode = opcode' ∧ source = source' := by
  revert h
  cases opcode <;> cases opcode' <;> cases source <;> cases source' <;> decide

theorem same_local {value value' : LocalCommand} {session session' : RecoverySession}
    (hvalue : value ∈ [LocalCommand.Wake, .DumpInternalFlash, .DumpMissionSd, .StopDump,
      .ExitRecovery])
    (hvalue' : value' ∈ [LocalCommand.Wake, .DumpInternalFlash, .DumpMissionSd, .StopDump,
      .ExitRecovery])
    (hopcode : Command.recovery_opcode value = Command.recovery_opcode value')
    (hsource : Command.recovery_source session value = Command.recovery_source session' value') :
    value = value' := by
  cases value <;> cases value' <;>
    simp_all [Command.recovery_opcode, Command.recovery_source]

theorem Read.zero {b : Uplink} {command : UplinkCommand} (h : Read b command)
    (kind : b[1] = 1 ∨ b[1] = 2) : ∀ byte ∈ slice b 3 10, byte = 0 := by
  cases h with
  | actuator _ zero | liftoff _ zero => exact zero
  | _ kind' => simp [kind'] at kind

/-- One byte tells two emergencies of a kind apart. -/
theorem emergency_slice {b b' : Uplink} {command command' : UplinkCommand} (hread : Read b command)
    (hread' : Read b' command') (kind : b[1] = 1 ∨ b[1] = 2) (kind' : b'[1] = 1 ∨ b'[1] = 2)
    (h : slice b 2 3 = slice b' 2 3) : slice b 2 10 = slice b' 2 10 := by
  have h2 : b[2] = b'[2] := by
    rw [slice, slice, toList_bytes, toList_bytes] at h
    simpa using h
  rw [slice_zero (hread.zero kind), slice_zero (hread'.zero kind'), h2]

theorem on_bus_injective {b b' : Uplink} {command command' : UplinkCommand}
    {frame frame' : UInt16 × List UInt8} (framed : Framed b) (framed' : Framed b')
    (hread : Read b command) (hread' : Read b' command') (hkind : b[1] = b'[1])
    (hbus : OnBus b frame) (hbus' : OnBus b' frame') (h : frame = frame') : b = b' := by
  apply eq_of_slice framed framed' hkind
  cases hbus with
  | generic kind =>
    cases hbus' with
    | generic => exact (Prod.mk.inj h).2
    | _ kind' => simp [kind, kind'] at hkind
  | actuator kind =>
    cases hbus' with
    | actuator kind' =>
      exact emergency_slice hread hread' (.inl kind) (.inl kind') (Prod.mk.inj h).2
    | _ kind' => simp [kind, kind'] at hkind
  | liftoff kind =>
    cases hbus' with
    | liftoff kind' =>
      exact emergency_slice hread hread' (.inr kind) (.inr kind') (Prod.mk.inj h).2
    | _ kind' => simp [kind, kind'] at hkind
  | com_board kind hvalue hrecovery =>
    cases hbus' with
    | com_board kind' hvalue' hrecovery' =>
      obtain ⟨hfirst, hrest⟩ := List.cons.inj (Prod.mk.inj h).2
      obtain ⟨h2, hslice⟩ := List.cons.inj hrest
      obtain ⟨hopcode, hsource⟩ := control_byte hfirst
      obtain rfl := same_local hrecovery hrecovery' hopcode hsource
      have h3 : b[3] = b'[3] := (local_decode hvalue).trans (local_decode hvalue').symm
      rw [slice_two, slice_two, h2, h3, hslice]
    | _ kind' => simp [kind, kind'] at hkind
  | ground_time kind =>
    cases hbus' with
    | ground_time => exact (Prod.mk.inj h).2
    | _ kind' => simp [kind, kind'] at hkind

/-! ## Over a run of the board -/

/-- Every uplink command comes from an accepted frame. -/
def Uplinked (command : UplinkCommand) : Prop := ∃ b, decode_uplink b = .ok command

/-- Every generic request comes from an accepted frame. -/
def Requested (message : CanTxMessage) : Prop :=
  ∀ request, message = .GenericCommandRequest request → Uplinked (.MissionGeneric request)

def FromUplink (_ : CommandPath) : CommandPath.Action → Prop
  | .uplink command => Uplinked command
  | _ => True

/-- All that the tasks hold of the uplink is accepted. -/
structure Clean (w : CommandPath) : Prop where
  commands : ∀ command ∈ w.state.uplink_command_channel.items, Uplinked command
  messages : ∀ message ∈ w.state.can_tx_channel.items, Requested message
  safety : ∀ message ∈ w.state.can_safety_tx_channel.items, Requested message
  lock : ∀ request, w.command = .LockTracker request → Uplinked (.MissionGeneric request)
  waits : ∀ message, waitingFor w.command = some message → Requested message
  transmits : ∀ message, w.can = .Transmit message → Requested message

/-- The safety channel gets recovery controls only. -/
def Stops (s s' : RecoveryState) : Prop :=
  ∀ message ∈ s'.can_safety_tx_channel.items, message ∈ s.can_safety_tx_channel.items ∨
    ∃ control, message = .RecoveryControl control

theorem Stops.of_eq {s s' : RecoveryState}
    (h : s'.can_safety_tx_channel = s.can_safety_tx_channel) : Stops s s' := by
  intro message hm
  rw [h] at hm
  exact .inl hm

theorem Stops.trans {s s' s'' : RecoveryState} (h : Stops s s') (h' : Stops s' s'') :
    Stops s s'' := by
  intro message hm
  rcases h' message hm with hm | hcontrol
  · exact h message hm
  · exact .inr hcontrol

theorem queue_some_result_safety (s : RecoveryState) (result : Option CommandResult) :
    (s.queue_some_result result).1.can_safety_tx_channel = s.can_safety_tx_channel := by
  cases result <;> rfl

theorem stops_fail (s : RecoveryState) (reason : CommandReason) (stop_mission : Bool) :
    Stops s (s.fail_recovery_transfer reason stop_mission).1 := by
  unfold RecoveryState.fail_recovery_transfer
  dsimp only
  intro message hm
  rw [queue_some_result_safety] at hm
  unfold RecoveryState.send_stop at hm
  split at hm
  · split at hm
    · exact (Channel.mem_offer hm).imp_right fun hcontrol => ⟨_, hcontrol⟩
    · exact .inl hm
  · exact .inl hm

theorem queue_recovery_chunk_stops (s : RecoveryState) (chunk : RecoveryChunk) :
    Stops s (s.queue_or_fail chunk).1 := by
  unfold RecoveryState.queue_or_fail
  dsimp only
  split
  · exact .of_eq rfl
  · apply Stops.trans _ (stops_fail _ _ _)
    exact .of_eq rfl

theorem apply_session_status_stops (s : RecoveryState) (status : RecoveryStatus) :
    Stops s (s.apply_session_status status).1 := by
  unfold RecoveryState.apply_session_status
  dsimp only
  apply Stops.of_eq
  rw [queue_some_result_safety]
  split <;> rfl

theorem apply_recovery_status_stops (s : RecoveryState) (status : RecoveryStatus) :
    Stops s (s.apply_recovery_status status).1 := by
  unfold RecoveryState.apply_recovery_status
  dsimp only
  generalize (if status.status = .Complete then _ else _ :
    RecoveryAssembler × Option RecoveryChunk) = finished
  split
  · apply Stops.trans _ (apply_session_status_stops _ _)
    exact .of_eq rfl
  · split
    · apply Stops.trans (Stops.trans _ (queue_recovery_chunk_stops _ _))
        (apply_session_status_stops _ _)
      exact .of_eq rfl
    · apply Stops.trans _ (queue_recovery_chunk_stops _ _)
      exact .of_eq rfl

theorem apply_recovery_log_data_stops (s : RecoveryState) (fragment : RecoveryLogData) :
    Stops s (s.apply_recovery_log_data fragment).1 := by
  unfold RecoveryState.apply_recovery_log_data
  dsimp only
  split
  · apply Stops.trans _ (queue_recovery_chunk_stops _ _)
    exact .of_eq rfl
  · exact .of_eq rfl
  · apply Stops.trans _ (stops_fail _ _ _)
    exact .of_eq rfl

/-- A step of the CAN task. -/
structure CanKeeps (s s' : State) : Prop where
  commands : s'.uplink_command_channel = s.uplink_command_channel
  messages : s'.can_tx_channel = s.can_tx_channel
  safety : Stops s.toRecoveryState s'.toRecoveryState

theorem CanKeeps.trans {s s' s'' : State} (h : CanKeeps s s') (h' : CanKeeps s' s'') :
    CanKeeps s s'' :=
  ⟨h'.commands.trans h.commands, h'.messages.trans h.messages, h.safety.trans h'.safety⟩

theorem can_keeps_of_eq {s s' : State}
    (hcommands : s'.uplink_command_channel = s.uplink_command_channel)
    (hmessages : s'.can_tx_channel = s.can_tx_channel)
    (hsafety : s'.can_safety_tx_channel = s.can_safety_tx_channel) : CanKeeps s s' :=
  ⟨hcommands, hmessages, .of_eq hsafety⟩

theorem transmit_succeeded_keeps (s : State) (message : CanTxMessage) :
    CanKeeps s (s.transmit_succeeded message) := by
  unfold State.transmit_succeeded
  split
  · split <;> exact can_keeps_of_eq rfl rfl rfl
  · exact can_keeps_of_eq rfl rfl rfl

theorem transmit_failed_keeps (s : State) (message : CanTxMessage) :
    CanKeeps s (s.transmit_failed message).1 := by
  unfold State.transmit_failed
  split
  · exact can_keeps_of_eq rfl rfl rfl
  · split
    · exact can_keeps_of_eq rfl rfl rfl
    · exact can_keeps_of_eq rfl rfl (queue_some_result_safety _ _)
    · exact can_keeps_of_eq rfl rfl rfl

theorem apply_failed_result_keeps (s : State) (result : CommandResult) :
    CanKeeps s (s.apply_failed_result result).1 :=
  can_keeps_of_eq rfl rfl (queue_some_result_safety _ _)

theorem apply_command_result_keeps (s : State) (result : CommandResult) :
    CanKeeps s (s.apply_command_result result).1 :=
  can_keeps_of_eq rfl rfl rfl

theorem recovery_mode_frame_keeps (s : State) (data : List UInt8) :
    CanKeeps s (s.recovery_mode_frame data) := by
  have hmode : CanKeeps s (s.handle_recovery_mode_command data).1 := by
    unfold State.handle_recovery_mode_command
    split
    · split <;> exact can_keeps_of_eq rfl rfl rfl
    · exact can_keeps_of_eq rfl rfl rfl
  apply hmode.trans
  unfold State.recovery_mode_frame
  dsimp only
  split <;> exact can_keeps_of_eq rfl rfl rfl

/-! ### The invariant -/

theorem Clean.can_keeps {w w' : CommandPath} (clean : Clean w) (hcommand : w'.command = w.command)
    (hkeeps : CanKeeps w.state w'.state)
    (htransmits : ∀ message, w'.can = .Transmit message → Requested message) : Clean w' := by
  refine ⟨?_, ?_, ?_, ?_, ?_, htransmits⟩
  · rw [hkeeps.commands]
    exact clean.commands
  · rw [hkeeps.messages]
    exact clean.messages
  · intro message hm
    rcases hkeeps.safety message hm with hm | ⟨control, rfl⟩
    · exact clean.safety message hm
    · exact nofun
  · rw [hcommand]
    exact clean.lock
  · rw [hcommand]
    exact clean.waits

theorem clean_next_safety {w : CommandPath} (clean : Clean w) : Clean w.next_safety := by
  unfold CommandPath.next_safety
  split <;> rename_i hreceive
  · refine ⟨clean.commands, clean.messages, fun m hm => ?_, clean.lock, clean.waits, ?_⟩
    · exact clean.safety _ (Channel.mem_of_receive hreceive (.inr hm))
    · rintro _ ⟨⟩
      exact clean.safety _ (Channel.mem_of_receive hreceive (.inl rfl))
  · exact ⟨clean.commands, clean.messages, clean.safety, clean.lock, clean.waits, nofun⟩

theorem clean_lock_failed {w : CommandPath} (clean : Clean w) (result : CommandResult) :
    Clean (w.lock_failed result).1 := by
  unfold CommandPath.lock_failed
  split
  · exact clean.can_keeps rfl (can_keeps_of_eq rfl rfl rfl) nofun
  · apply clean_next_safety
    exact clean.can_keeps rfl (apply_failed_result_keeps _ _) clean.transmits

theorem clean_lock_result {w : CommandPath} (clean : Clean w) (result : CommandResult) :
    Clean (w.lock_result result).1 := by
  unfold CommandPath.lock_result
  split
  · exact clean.can_keeps rfl (can_keeps_of_eq rfl rfl rfl) nofun
  · exact clean.can_keeps rfl (apply_command_result_keeps _ _) nofun

theorem clean_transmitted {w : CommandPath} (clean : Clean w) (message : CanTxMessage)
    (sent : Bool) : Clean (w.step_transmitted message sent).1 := by
  unfold CommandPath.step_transmitted
  split
  · apply clean_next_safety
    exact clean.can_keeps rfl (transmit_succeeded_keeps _ _) clean.transmits
  · have hkeeps := transmit_failed_keeps w.state message
    split <;> rename_i hfailed <;> rw [hfailed] at hkeeps
    · apply clean_next_safety
      exact clean.can_keeps rfl hkeeps clean.transmits
    · apply clean_lock_failed
      exact clean.can_keeps rfl hkeeps clean.transmits

theorem clean_received {w : CommandPath} (clean : Clean w) (message : CanRxMessage)
    (received_at_ms : Nat) (hselect : w.can = .Select) :
    Clean (w.step_received message received_at_ms).1 := by
  have hnone : ∀ message, w.can = .Transmit message → Requested message := by
    rw [hselect]
    exact nofun
  unfold CommandPath.step_received
  dsimp only
  split
  · apply clean_lock_result
    exact clean.can_keeps rfl (can_keeps_of_eq rfl rfl rfl) hnone
  · exact clean.can_keeps rfl (can_keeps_of_eq rfl rfl rfl) hnone
  · exact clean.can_keeps rfl ⟨rfl, rfl, apply_recovery_status_stops _ _⟩ hnone
  · exact clean.can_keeps rfl ⟨rfl, rfl, apply_recovery_log_data_stops _ _⟩ hnone
  · exact clean.can_keeps rfl (can_keeps_of_eq rfl rfl rfl) hnone
  · exact clean.can_keeps rfl (can_keeps_of_eq rfl rfl rfl) hnone
  · exact clean.can_keeps rfl (can_keeps_of_eq rfl rfl rfl) hnone

theorem Clean.hands {w : CommandPath} {s' : State} {task : CommandTask} (clean : Clean w)
    (hands : Hands Requested w.state s' task) : Clean { w with state := s', command := task } := by
  refine ⟨?_, ?_, ?_, fun request h => hands.lock request h request rfl, hands.waits,
    clean.transmits⟩
  · rw [hands.uplink]
    exact clean.commands
  · intro message hm
    rcases hands.sent with hsame | ⟨new, hnew, hmore⟩
    · rw [hsame] at hm
      exact clean.messages message hm
    · rw [hmore] at hm
      rcases List.mem_append.mp hm with hm | hm
      · exact clean.messages message hm
      · rw [List.mem_singleton.mp hm]
        exact hnew
  · rw [hands.safety]
    exact clean.safety

theorem requested_generic {request : GenericCommandRequest} (h : Uplinked (.MissionGeneric request)) :
    Requested (.GenericCommandRequest request) := by
  rintro _ ⟨⟩
  exact h

theorem requested_of_message {command : UplinkCommand} {message : CanTxMessage}
    (h : Uplinked command) (hmessage : MessageOf command message) : Requested message := by
  cases hmessage with
  | generic => exact requested_generic h
  | _ => exact nofun

theorem clean_receive {w : CommandPath} (clean : Clean w) (hcommand : w.command = .Receive) :
    Clean w.step_command.1 := by
  unfold CommandPath.step_command
  rw [hcommand]
  unfold Command.resume_command
  dsimp only
  split <;> rename_i hreceive
  · exact ⟨clean.commands, clean.messages, clean.safety, nofun, nofun, clean.transmits⟩
  · rename_i command channel
    have popped : Clean { w with state := { w.state with uplink_command_channel := channel } } :=
      ⟨fun queued hq => clean.commands _ (Channel.mem_of_receive hreceive (.inr hq)),
        clean.messages, clean.safety, clean.lock, clean.waits, clean.transmits⟩
    apply popped.hands
    apply hands_process_command
    intro message hmessage
    exact requested_of_message (clean.commands _ (Channel.mem_of_receive hreceive (.inl rfl))) hmessage

/-- A task that waits goes on with what it waits for. -/
theorem hands_resume {w : CommandPath} (clean : Clean w) (hreceive : w.command ≠ .Receive) :
    Hands Requested w.state (Command.resume_command w.state w.command).1
      (Command.resume_command w.state w.command).2.1 := by
  cases hcommand : w.command with
  | Receive => exact absurd hcommand hreceive
  | LockTracker request =>
    exact hands_process_generic w.state (requested_generic (clean.lock request hcommand))
  | SendForward request =>
    exact hands_send_forward w.state (clean.waits _ (by rw [hcommand]; rfl))
  | SendGnss value transaction_id command => exact hands_send_gnss w.state _ _ _
  | SendControl control command => exact hands_send_control w.state command nofun
  | SendTime message => exact hands_send_time w.state (clean.waits _ (by rw [hcommand]; rfl))

theorem clean_command {w : CommandPath} (clean : Clean w) : Clean w.step_command.1 := by
  by_cases hreceive : w.command = .Receive
  · exact clean_receive clean hreceive
  · exact clean.hands (hands_resume clean hreceive)

theorem clean_emergency {w : CommandPath} {message : CanTxMessage}
    {channel : Channel CanTxMessage 8} (clean : Clean w)
    (hsend : w.state.can_safety_tx_channel.try_send message = some channel)
    (hmessage : Requested message) :
    Clean { w with state := { w.state with can_safety_tx_channel := channel } } := by
  refine ⟨clean.commands, clean.messages, fun queued hq => ?_, clean.lock, clean.waits,
    clean.transmits⟩
  rcases Channel.mem_of_send hsend hq with hq | rfl
  · exact clean.safety queued hq
  · exact hmessage

theorem clean_uplink {w : CommandPath} {s' : State} {command : UplinkCommand} (clean : Clean w)
    (hcommand : Uplinked command) (h : CommandPath.uplink w.state command = some s') :
    Clean { w with state := s' } := by
  unfold CommandPath.uplink at h
  split at h
  · obtain ⟨channel, hsend, rfl⟩ := Option.map_eq_some_iff.mp h
    exact clean_emergency clean hsend nofun
  · obtain ⟨channel, hsend, rfl⟩ := Option.map_eq_some_iff.mp h
    exact clean_emergency clean hsend nofun
  · obtain rfl := Option.some.inj h
    refine ⟨fun queued hq => ?_, clean.messages, clean.safety, clean.lock, clean.waits,
      clean.transmits⟩
    rcases Channel.mem_offer hq with hq | rfl
    · exact clean.commands queued hq
    · exact hcommand

theorem clean_can_take {w w' : CommandPath} (clean : Clean w) (h : w.step_can_take = some w') :
    Clean w' := by
  unfold CommandPath.step_can_take at h
  split at h <;> rename_i hsafety
  · obtain rfl := Option.some.inj h
    refine ⟨clean.commands, clean.messages, fun message hm => ?_, clean.lock, clean.waits, ?_⟩
    · exact clean.safety message (Channel.mem_of_receive hsafety (.inr hm))
    · rintro _ ⟨⟩
      exact clean.safety _ (Channel.mem_of_receive hsafety (.inl rfl))
  · split at h <;> rename_i hreceive
    · obtain rfl := Option.some.inj h
      refine ⟨clean.commands, fun message hm => ?_, clean.safety, clean.lock, clean.waits, ?_⟩
      · exact clean.messages message (Channel.mem_of_receive hreceive (.inr hm))
      · rintro _ ⟨⟩
        exact clean.messages _ (Channel.mem_of_receive hreceive (.inl rfl))
    · simp at h

theorem clean_step {w w' : CommandPath} {a : CommandPath.Action} {reports : List Report}
    (clean : Clean w) (ha : FromUplink w a)
    (h : CommandPath.machine.step w a = some (w', reports)) : Clean w' := by
  dsimp only [CommandPath.machine] at h
  unfold CommandPath.step at h
  split at h
  case h_1 command =>
    obtain ⟨s', huplink, h⟩ := Option.map_eq_some_iff.mp h
    obtain ⟨rfl, -⟩ := Prod.mk.inj h
    exact clean_uplink clean ha huplink
  case h_2 =>
    dsimp only at h
    obtain ⟨rfl, -⟩ := Prod.mk.inj (Option.some.inj h)
    refine ⟨clean.commands, fun message hm => ?_, clean.safety, clean.lock, clean.waits,
      clean.transmits⟩
    rcases Channel.mem_offer hm with hm | rfl
    · exact clean.messages message hm
    · exact nofun
  case h_3 =>
    obtain ⟨_, -, h⟩ := Option.map_eq_some_iff.mp h
    obtain ⟨rfl, -⟩ := Prod.mk.inj h
    exact clean.can_keeps rfl (can_keeps_of_eq rfl rfl rfl) clean.transmits
  case h_4 source =>
    obtain ⟨s', hreceive, h⟩ := Option.map_eq_some_iff.mp h
    obtain ⟨rfl, -⟩ := Prod.mk.inj h
    refine clean.can_keeps rfl ?_ clean.transmits
    cases source
    case Periodic => simp [CommandPath.lora_receive] at hreceive
    all_goals
      obtain ⟨_, -, rfl⟩ := Option.map_eq_some_iff.mp hreceive
      exact can_keeps_of_eq rfl rfl rfl
  case h_5 =>
    split at h
    · simp at h
    · have hclean := clean_command clean
      rwa [Option.some.inj h] at hclean
  case h_6 =>
    split at h
    · obtain ⟨v, htake, h⟩ := Option.map_eq_some_iff.mp h
      obtain ⟨rfl, -⟩ := Prod.mk.inj h
      exact clean_can_take clean htake
    · simp at h
  case h_7 sent =>
    split at h
    · rename_i message hcan
      have hclean := clean_transmitted clean message sent
      rwa [Option.some.inj h] at hclean
    · simp at h
  case h_8 message received_at_ms =>
    split at h <;> rename_i hcan
    · split at h
      · have hclean := clean_received clean message received_at_ms hcan
        rwa [Option.some.inj h] at hclean
      · simp at h
    · simp at h
  case h_9 data =>
    split at h
    · split at h
      · obtain ⟨rfl, -⟩ := Prod.mk.inj (Option.some.inj h)
        exact clean.can_keeps rfl (recovery_mode_frame_keeps _ _) clean.transmits
      · simp at h
    · simp at h
  case h_10 =>
    split at h
    · rename_i result hcan
      split at h
      · simp at h
      · have hclean := clean_lock_failed clean result
        rwa [Option.some.inj h] at hclean
    · rename_i result hcan
      split at h
      · simp at h
      · have hclean := clean_lock_result clean result
        rwa [Option.some.inj h] at hclean
    · simp at h

theorem clean_run {past : List Report} {w : CommandPath}
    (run : Machine.Run CommandPath.machine FromUplink past w) : Clean w := by
  refine run.always (I := Clean) ?_ fun _ _ _ _ clean ha h => clean_step clean ha h
  rintro w rfl
  exact ⟨nofun, nofun, nofun, nofun, nofun, nofun⟩

/-- Only a generic request has the identifier 0x010. -/
theorem generic_of_frame {message : CanTxMessage} {payload : List UInt8}
    (h : message.create_frame = .ok (0x010, payload)) :
    ∃ request, message = .GenericCommandRequest request := by
  unfold CanTxMessage.create_frame at h
  cases hencode : message.encode_payload with
  | error => simp [hencode, Except.map] at h
  | ok encoded =>
    rw [hencode] at h
    have hid : message.id = 0x010 := (Prod.mk.inj (Except.ok.inj h)).1
    cases message with
    | GenericCommandRequest request => exact ⟨request, rfl⟩
    | _ => exact absurd hid (by dsimp only [CanTxMessage.id]; decide)

/-! ## Uplink to CAN -/

/-- What the ground sends is what the bus carries, and no other generic request gets there. -/
theorem uplink_verbatim (b : Uplink) :
    ((∃ command, decode_uplink b = .ok command) ↔ Accepted b) ∧
    (∀ command s message, decode_uplink b = .ok command → Builds s command message →
      ∃ frame, message.create_frame = .ok frame ∧ OnBus b frame) ∧
    (∀ command s, decode_uplink b = .ok command → Ready s command →
      ∃ message, Builds s command message) ∧
    (∀ b' command command' s s' message message', b[1] = b'[1] →
      decode_uplink b = .ok command → decode_uplink b' = .ok command' →
        Builds s command message → Builds s' command' message' →
          message.create_frame = message'.create_frame → b = b') ∧
    (∀ past w message payload, Machine.Run CommandPath.machine FromUplink past w →
      w.can = .Transmit message → message.create_frame = .ok (0x010, payload) →
        ∃ b' : Uplink, Accepted b' ∧ payload = slice b' 2 10 ∧
          b'[3] ∉ ([0x20, 0x21, 0x22, 0x23, 0x24] : List UInt8)) := by
  refine ⟨?_, ?_, fun _ _ _ => builds_of_ready, ?_, ?_⟩
  · rw [accepted_iff]
    simp only [decode_uplink_iff, exists_and_left]
  · intro command s message hdecode hbuilds
    obtain ⟨framed, hread⟩ := (decode_uplink_iff b command).mp hdecode
    exact create_frame_on_bus framed.transaction hread (builds_message hbuilds)
  · intro b' command command' s s' message message' hkind hdecode hdecode' hbuilds hbuilds' heq
    obtain ⟨framed, hread⟩ := (decode_uplink_iff b command).mp hdecode
    obtain ⟨framed', hread'⟩ := (decode_uplink_iff b' command').mp hdecode'
    obtain ⟨frame, hframe, hbus⟩ :=
      create_frame_on_bus framed.transaction hread (builds_message hbuilds)
    obtain ⟨frame', hframe', hbus'⟩ :=
      create_frame_on_bus framed'.transaction hread' (builds_message hbuilds')
    have hsame : frame = frame' := Except.ok.inj (hframe.symm.trans (heq.trans hframe'))
    exact on_bus_injective framed framed' hread hread' hkind hbus hbus' hsame
  · intro past w message payload run hcan hframe
    obtain ⟨request, rfl⟩ := generic_of_frame hframe
    obtain ⟨b', hdecode⟩ := (clean_run run).transmits _ hcan request rfl
    obtain ⟨framed, hread⟩ := (decode_uplink_iff b' _).mp hdecode
    obtain ⟨frame, hframe', hbus⟩ := create_frame_on_bus framed.transaction hread .generic
    obtain rfl := Except.ok.inj (hframe'.symm.trans hframe)
    have accepted : Accepted b' := (accepted_iff b').mpr ⟨framed, _, hread⟩
    cases hbus with
    | generic kind => exact ⟨b', accepted, rfl, accepted.generic kind⟩

/-- A dump of the Mission SD from byte 0x010203, as the ground sends it. -/
def dumpFrame : Uplink := #v[0x55, 3, 0x2a, 115, 3, 2, 1, 0, 0, 0, 0x0f]

theorem uplink_verbatim_dump : ∃ command message, decode_uplink dumpFrame = .ok command ∧
    Builds .new command message ∧
      message.create_frame = .ok (0x008, [0x12, 0x2a, 3, 2, 1, 0, 0, 0]) := by
  have hdecode : decode_uplink dumpFrame =
      .ok (.ComBoardLocal 0x2a 115 #v[3, 2, 1, 0, 0, 0]) := by decide +kernel
  have hbuilds : Builds .new (.ComBoardLocal 0x2a 115 #v[3, 2, 1, 0, 0, 0])
      (.RecoveryControl ⟨.StartLogDump, .MissionSdLatestFlight, 0x2a, 0x010203, 0⟩) :=
    .processed (Prod.eta _).symm (.inl (by decide +kernel))
  obtain ⟨-, hverbatim, -⟩ := uplink_verbatim dumpFrame
  obtain ⟨frame, hframe, hbus⟩ := hverbatim _ _ _ hdecode hbuilds
  refine ⟨_, _, hdecode, hbuilds, hframe.trans ?_⟩
  cases hbus with
  | com_board _ hvalue =>
    have hdump : LocalCommand.decode dumpFrame[3] = some .DumpMissionSd := rfl
    obtain rfl := Option.some.inj (hvalue.symm.trans hdump)
    have hslice : slice dumpFrame 4 10 = [3, 2, 1, 0, 0, 0] := by decide
    unfold Command.recovery_source
    rw [hslice, if_pos rfl]
    decide
  | _ kind => exact absurd kind (by decide)

end Comboard.Verbatim
