import Comboard.Code.LoraRx
import Comboard.Emergency
import Comboard.Framing
import Comboard.Lib.Lines
import Mathlib.Data.List.ReduceOption

/-!
# From the bytes of the uplink to its commands

The receiving task decodes what the greedy scan finds between two errors of the UART, wherever the reads
are cut. An emergency among it goes on to the CAN task.
-/

namespace Comboard.UplinkBytes

open Lib LoraRx Framing

/-! ## The stream -/

/-- A byte that was pushed, or `none` for an error of the UART. -/
def pushes : RxReport → Option (Option UInt8)
  | .pushed byte _ => some (some byte)
  | .read_error => some none
  | _ => none

def stream (past : List RxReport) : List (Option UInt8) := past.filterMap pushes

def result : RxReport → Option (Except UplinkDecodeError UplinkCommand)
  | .pushed _ result => result
  | _ => none

def results (past : List RxReport) : List (Except UplinkDecodeError UplinkCommand) :=
  past.filterMap result

/-- What the scan finds between two errors. -/
def scanned (segment : List (Option UInt8)) : List (Except UplinkDecodeError UplinkCommand) :=
  (uplink.scan 0 segment.reduceOption).map (·.2)

def decoded (stream : List (Option UInt8)) : List (Except UplinkDecodeError UplinkCommand) :=
  (ended none stream ++ [unended none stream]).flatMap scanned

theorem decoded_eq (stream : List (Option UInt8)) :
    decoded stream = (ended none stream).flatMap scanned ++ scanned (unended none stream) := by
  unfold decoded
  rw [List.flatMap_append, List.flatMap_singleton]

@[simp]
theorem scanned_nil : scanned [] = [] := by
  unfold scanned List.reduceOption
  rw [List.filterMap_nil, Format.scan]
  rfl

/-- An error adds nothing, whatever the buffer held. -/
theorem decoded_error (stream : List (Option UInt8)) : decoded (stream ++ [none]) = decoded stream := by
  rw [decoded_eq, ended_concat_self, unended_concat_self, scanned_nil, List.append_nil,
    List.flatMap_append, List.flatMap_singleton, decoded_eq]

theorem decoded_push {buffer : UplinkFrameBuffer} {stream : List (Option UInt8)} (byte : UInt8)
    (h : Holds buffer (uplink.kept (unended none stream).reduceOption)) :
    ∃ buffer' result, buffer.push byte = some (buffer', result) ∧
      decoded (stream ++ [some byte]) = decoded stream ++ result.toList ∧
      Holds buffer' (uplink.kept (unended none (stream ++ [some byte])).reduceOption) := by
  obtain ⟨buffer', results, hread, hresults, hheld⟩ := push_read_spec [byte] h
  have hne : some byte ≠ none := by simp
  simp only [push_read] at hread
  split at hread
  · simp at hread
  · rename_i hpush
    obtain ⟨rfl, rfl⟩ := Prod.mk.inj (Option.some.inj hread)
    refine ⟨_, _, hpush, ?_, ?_⟩
    · rw [List.append_nil] at hresults
      rw [decoded_eq, decoded_eq, ended_snoc hne, unended_snoc hne, List.append_assoc]
      unfold scanned
      rw [hresults, List.reduceOption_append]
      rfl
    · rw [unended_snoc hne, List.reduceOption_append]
      exact hheld

/-! ## What the task reports -/

def bytes_read : RxReport → List UInt8
  | .read bytes => bytes
  | _ => []

@[simp]
def path_report : RxReport → List EmergencyPath.Report
  | .path r => [r]
  | _ => []

def dropped : RxReport → Bool
  | .dropped _ => true
  | _ => false

def command : EmergencyPath.Report → Option UplinkCommand
  | .accepted command => some command
  | _ => none

def is_ok (result : Except UplinkDecodeError UplinkCommand) : Bool := result.isOk

def is_error (result : Except UplinkDecodeError UplinkCommand) : Bool := !result.isOk

structure Decodes (past : List RxReport) (w : LoraRx) : Prop where
  results : results past = decoded (stream past)
  holds : Holds w.uplink_frame (uplink.kept (unended none (stream past)).reduceOption)
  read : past.flatMap bytes_read = (stream past).reduceOption ++ w.rx_buf
  bytes : w.lora_rx_byte_count = .ofNat (past.flatMap bytes_read).length
  success : w.lora_rx_success_count = .ofNat ((UplinkBytes.results past).countP is_ok)
  error : w.lora_rx_error_count =
    .ofNat ((UplinkBytes.results past).countP is_error + (stream past).count none)
  drops : w.lora_command_drop_count = .ofNat (past.countP dropped)
  commands : (past.flatMap path_report).filterMap command =
    (UplinkBytes.results past).filterMap Except.toOption

section Steps

variable {past reports : List RxReport} {w w' : LoraRx}

@[simp]
theorem stream_append (past new : List RxReport) : stream (past ++ new) = stream past ++ stream new :=
  List.filterMap_append

@[simp]
theorem results_append (past new : List RxReport) :
    results (past ++ new) = results past ++ results new := List.filterMap_append

theorem decodes_start : Decodes [] .start where
  results := by
    unfold decoded
    rw [show stream [] = [] from rfl, ended_nil, unended_nil, List.nil_append, List.flatMap_singleton,
      scanned_nil]
    rfl
  holds := by
    rw [show stream [] = [] from rfl, unended_nil, List.reduceOption_nil, Format.kept]
    exact holds_nil rfl
  read := rfl
  bytes := rfl
  success := rfl
  error := rfl
  drops := rfl
  commands := rfl

theorem decodes_read {bytes : List UInt8} (decodes : Decodes past w)
    (h : w.read bytes = some (w', reports)) : Decodes (past ++ reports) w' := by
  simp only [LoraRx.read, LoraRx.reading, Option.ite_none_right_eq_some, Option.some.injEq,
    Prod.mk.injEq, Bool.and_eq_true, List.isEmpty_iff] at h
  obtain ⟨⟨⟨hempty, -⟩, -⟩, rfl, rfl⟩ := h
  have hread := decodes.read
  rw [hempty, List.append_nil] at hread
  have hquiet : stream (.read bytes :: if bytes.length ≠ 0 then [.activity] else []) = [] ∧
      results (.read bytes :: if bytes.length ≠ 0 then [.activity] else []) = [] ∧
      (.read bytes :: if bytes.length ≠ 0 then [.activity] else []).flatMap bytes_read = bytes ∧
      (.read bytes :: if bytes.length ≠ 0 then [.activity] else []).countP dropped = 0 ∧
      (.read bytes :: if bytes.length ≠ 0 then [.activity] else []).flatMap path_report = [] := by
    split <;> simp [stream, results, pushes, result, bytes_read, dropped, path_report]
  obtain ⟨hstream, hresults, hbytes, hdropped, hpath⟩ := hquiet
  constructor
  · rw [stream_append, results_append, hstream, hresults, List.append_nil, List.append_nil]
    exact decodes.results
  · rw [stream_append, hstream, List.append_nil]
    exact decodes.holds
  · rw [stream_append, hstream, List.append_nil, List.flatMap_append, hbytes, hread]
  · rw [List.flatMap_append, hbytes, List.length_append, UInt32.ofNat_add, decodes.bytes]
  · rw [results_append, hresults, List.append_nil]
    exact decodes.success
  · rw [stream_append, results_append, hstream, hresults, List.append_nil, List.append_nil]
    exact decodes.error
  · rw [List.countP_append, hdropped]
    exact decodes.drops
  · rw [results_append, hresults, List.flatMap_append, hpath, List.append_nil, List.append_nil]
    exact decodes.commands

theorem decodes_error (decodes : Decodes past w) (h : w.read_error = some (w', reports)) :
    Decodes (past ++ reports) w' := by
  simp only [LoraRx.read_error, LoraRx.reading, Option.ite_none_right_eq_some, Option.some.injEq,
    Prod.mk.injEq, Bool.and_eq_true, List.isEmpty_iff] at h
  obtain ⟨-, rfl, rfl⟩ := h
  have hstream : stream (past ++ [.read_error]) = stream past ++ [none] := stream_append _ _
  have hresults : results (past ++ [.read_error]) = results past := by
    rw [results_append]
    exact List.append_nil _
  constructor
  · rw [hresults, hstream, decoded_error]
    exact decodes.results
  · rw [hstream, unended_concat_self, List.reduceOption_nil, Format.kept]
    exact holds_nil rfl
  · rw [hstream, List.reduceOption_append, List.flatMap_append, decodes.read]
    simp [bytes_read]
  · rw [List.flatMap_append]
    simpa [bytes_read] using decodes.bytes
  · rw [hresults]
    exact decodes.success
  · rw [hresults, hstream, List.count_append, ← Nat.add_assoc, UInt32.ofNat_add, ← decodes.error]
    rfl
  · rw [List.countP_append]
    exact decodes.drops
  · rw [hresults, List.flatMap_append]
    simpa [path_report] using decodes.commands

theorem Decodes.pushed (decodes : Decodes past w) {byte : UInt8}
    {result : Option (Except UplinkDecodeError UplinkCommand)} (hbuf : w.rx_buf = byte :: w'.rx_buf)
    (hdecoded : decoded (stream past ++ [some byte]) = decoded (stream past) ++ result.toList)
    (hheld : Holds w'.uplink_frame
      (uplink.kept (unended none (stream past ++ [some byte])).reduceOption))
    (hstream : stream reports = [some byte]) (hresults : UplinkBytes.results reports = result.toList)
    (hread : reports.flatMap bytes_read = [])
    (hbytes : w'.lora_rx_byte_count = w.lora_rx_byte_count)
    (hsuccess : w'.lora_rx_success_count =
      w.lora_rx_success_count + .ofNat (result.toList.countP is_ok))
    (herror : w'.lora_rx_error_count = w.lora_rx_error_count + .ofNat (result.toList.countP is_error))
    (hdrops : w'.lora_command_drop_count =
      w.lora_command_drop_count + .ofNat (reports.countP dropped))
    (hcommands : (reports.flatMap path_report).filterMap command =
      result.toList.filterMap Except.toOption) : Decodes (past ++ reports) w' where
  results := by rw [results_append, stream_append, hstream, hresults, hdecoded, decodes.results]
  holds := by rw [stream_append, hstream]; exact hheld
  read := by
    rw [stream_append, hstream, List.reduceOption_append, List.flatMap_append, decodes.read, hread,
      hbuf]
    simp
  bytes := by rw [List.flatMap_append, hread, List.append_nil, hbytes, decodes.bytes]
  success := by rw [results_append, hresults, List.countP_append, UInt32.ofNat_add, hsuccess, decodes.success]
  error := by
    rw [results_append, hresults, stream_append, hstream, List.countP_append, List.count_append, herror,
      decodes.error]
    rw [← UInt32.ofNat_add, Nat.add_right_comm]
    rfl
  drops := by rw [List.countP_append, UInt32.ofNat_add, hdrops, decodes.drops]
  commands := by
    rw [List.flatMap_append, List.filterMap_append, results_append, List.filterMap_append, hresults,
      hcommands, decodes.commands]

theorem decodes_push (decodes : Decodes past w) (h : w.push = some (w', reports)) :
    Decodes (past ++ reports) w' := by
  unfold LoraRx.push at h
  split at h
  · rename_i byte rx_buf _ hbuf
    obtain ⟨buffer, result, hpush, hdecoded, hheld⟩ := decoded_push byte decodes.holds
    rw [hpush] at h
    cases result with
    | none =>
      obtain ⟨rfl, rfl⟩ := Prod.mk.inj (Option.some.inj h)
      exact decodes.pushed hbuf hdecoded hheld rfl rfl rfl rfl (by simp) (by simp) (by simp [dropped])
        rfl
    | some result =>
      cases result with
      | error error =>
        obtain ⟨rfl, rfl⟩ := Prod.mk.inj (Option.some.inj h)
        exact decodes.pushed hbuf hdecoded hheld rfl rfl rfl rfl (by simp [is_ok, Except.isOk, Except.toBool])
          (by simp [is_error, Except.isOk, Except.toBool]) (by simp [dropped]) rfl
      | ok command =>
        simp only [LoraRx.accept, Option.some.injEq, Prod.mk.injEq] at h
        obtain ⟨rfl, rfl⟩ := h
        generalize LoraRx.drops _ command = drops
        refine decodes.pushed hbuf hdecoded hheld ?_ ?_ ?_ rfl (by simp [is_ok, Except.isOk, Except.toBool])
          (by simp [is_error, Except.isOk, Except.toBool]) ?_ ?_
        all_goals cases drops <;> rfl
  · simp at h

theorem other_reports {a : EmergencyPath.Action} {path path' : EmergencyPath}
    {new : List EmergencyPath.Report} (ha : ∀ bytes, a ≠ .frame bytes)
    (h : EmergencyPath.machine.step path a = some (path', new)) : new.filterMap command = [] := by
  refine List.filterMap_eq_nil_iff.mpr fun r hr => ?_
  cases r with
  | accepted accepted =>
    cases a with
    | frame bytes => exact absurd rfl (ha bytes)
    | enter =>
      simp only [EmergencyPath.machine, EmergencyPath.step] at h
      split at h
      · split at h
        · simp at h
        · obtain ⟨-, rfl⟩ := Prod.mk.inj (Option.some.inj h)
          simp at hr
      · simp at h
    | path a =>
      obtain ⟨-, reports, -, -, -, rfl⟩ := Emergency.step_path h
      exact absurd hr (Emergency.not_accepted _ _ _ _)
  | _ => rfl

theorem decodes_other {a : EmergencyPath.Action} {path : EmergencyPath} {new : List EmergencyPath.Report}
    (decodes : Decodes past w) (ha : ∀ bytes, a ≠ .frame bytes)
    (h : EmergencyPath.machine.step w.path a = some (path, new)) :
    Decodes (past ++ new.map .path) { w with path } := by
  have hstream : stream (past ++ new.map .path) = stream past := by
    rw [stream_append]
    simp [stream, pushes]
  have hresults : results (past ++ new.map .path) = results past := by
    rw [results_append]
    simp [results, result]
  have hread : (past ++ new.map RxReport.path).flatMap bytes_read = past.flatMap bytes_read := by
    have hnone : (new.map RxReport.path).flatMap bytes_read = [] :=
      List.flatMap_eq_nil_iff.mpr (by simp [bytes_read])
    rw [List.flatMap_append, hnone, List.append_nil]
  have hdropped : (past ++ new.map RxReport.path).countP dropped = past.countP dropped := by
    have hnone : (new.map RxReport.path).countP dropped = 0 :=
      List.countP_eq_zero.mpr (by simp [dropped])
    rw [List.countP_append, hnone, Nat.add_zero]
  have hpath : (new.map RxReport.path).flatMap path_report = new := by simp [List.flatMap_map]
  refine ⟨?_, ?_, ?_, ?_, ?_, ?_, ?_, ?_⟩
  · rw [hresults, hstream]; exact decodes.results
  · rw [hstream]; exact decodes.holds
  · rw [hread, hstream]; exact decodes.read
  · rw [hread]; exact decodes.bytes
  · rw [hresults]; exact decodes.success
  · rw [hresults, hstream]; exact decodes.error
  · rw [hdropped]; exact decodes.drops
  · rw [hresults, List.flatMap_append, List.filterMap_append, hpath, other_reports ha h,
      List.append_nil]
    exact decodes.commands

/-- The tasks behind the receiving task. -/
theorem step_other {a : EmergencyPath.Action} (h : machine.step w (.other a) = some (w', reports)) :
    (∀ bytes, a ≠ .frame bytes) ∧ ∃ path new, EmergencyPath.machine.step w.path a = some (path, new) ∧
      w' = { w with path } ∧ reports = new.map .path := by
  cases a with
  | frame bytes => simp [machine, LoraRx.step] at h
  | enter | path =>
    obtain ⟨⟨path, new⟩, hstep, heq⟩ := Option.map_eq_some_iff.mp h
    obtain ⟨rfl, rfl⟩ := Prod.mk.inj heq
    exact ⟨fun bytes => by simp, path, new, hstep, rfl, rfl⟩

theorem decodes_run (run : Machine.Run machine Machine.anyStep past w) : Decodes past w := by
  refine run.invariant ?_ fun past w a w' reports _ decodes _ h => ?_
  · rintro w rfl
    exact decodes_start
  · cases a with
    | read bytes => exact decodes_read decodes h
    | read_error => exact decodes_error decodes h
    | push => exact decodes_push decodes h
    | other a =>
      obtain ⟨ha, path, new, hstep, rfl, rfl⟩ := step_other h
      exact decodes_other decodes ha hstep

/-- An accepted command was decoded from a window of the stream. -/
theorem push_ok {buffer buffer' : UplinkFrameBuffer} {byte : UInt8} {command : UplinkCommand}
    (h : buffer.push byte = some (buffer', some (.ok command))) :
    ∃ window, decode_uplink window = .ok command := by
  unfold UplinkFrameBuffer.push at h
  split at h
  · split at h <;> simp at h
  · split at h
    · dsimp only at h
      split at h
      · simp at h
      · split at h
        · rename_i hdecode
          simp only [Option.some.injEq, Prod.mk.injEq] at h
          exact ⟨_, h.2⟩
        · split at h <;> simp only [Option.some.injEq, Prod.mk.injEq] at h <;> exact ⟨_, h.2⟩
    · simp at h

/-- For the tasks behind it, the receiving task hands over frames. -/
theorem push_path (h : w.push = some (w', reports)) :
    w'.path = w.path ∧ reports.flatMap path_report = [] ∨
      ∃ window, EmergencyPath.machine.step w.path (.frame window) =
        some (w'.path, reports.flatMap path_report) := by
  unfold LoraRx.push at h
  split at h
  · rename_i hwaiting _
    split at h
    · simp at h
    · rename_i hpush
      dsimp only at h
      split at h
      · obtain ⟨rfl, rfl⟩ := Prod.mk.inj (Option.some.inj h)
        exact .inl ⟨rfl, rfl⟩
      · rename_i command
        obtain ⟨window, hdecode⟩ := push_ok hpush
        simp only [LoraRx.accept, Option.some.injEq, Prod.mk.injEq] at h
        obtain ⟨rfl, rfl⟩ := h
        refine .inr ⟨window, ?_⟩
        simp only [EmergencyPath.machine, EmergencyPath.step, hwaiting, EmergencyPath.step_frame, hdecode]
        split <;> rfl
      · obtain ⟨rfl, rfl⟩ := Prod.mk.inj (Option.some.inj h)
        exact .inl ⟨rfl, rfl⟩
  · simp at h

theorem refines_path (run : Machine.Run machine Machine.anyStep past w) :
    Machine.Run EmergencyPath.machine Machine.anyStep (past.flatMap path_report) w.path := by
  refine run.simulates LoraRx.path path_report ?_ fun past w a w' reports _ _ h => ?_
  · rintro w rfl
    rfl
  · cases a with
    | read bytes =>
      simp only [machine, LoraRx.step, LoraRx.read, Option.ite_none_right_eq_some, Option.some.injEq,
        Prod.mk.injEq] at h
      obtain ⟨-, rfl, rfl⟩ := h
      refine .inl ⟨rfl, ?_⟩
      split <;> rfl
    | read_error =>
      simp only [machine, LoraRx.step, LoraRx.read_error, Option.ite_none_right_eq_some,
        Option.some.injEq, Prod.mk.injEq] at h
      obtain ⟨-, rfl, rfl⟩ := h
      exact .inl ⟨rfl, rfl⟩
    | push => exact (push_path h).imp_right fun ⟨window, hstep⟩ => ⟨_, trivial, hstep⟩
    | other a =>
      obtain ⟨-, path, new, hstep, rfl, rfl⟩ := step_other h
      exact .inr ⟨a, trivial, by simpa [List.flatMap_map] using hstep⟩

end Steps

/-! ## The results -/

section Results

variable {past : List RxReport} {w : LoraRx}

/-- What the task decodes is what the greedy scan finds in the bytes between two errors of the UART,
wherever the reads are cut. Its counters are those of the whole history, and no byte makes it panic. -/
theorem uplink_of_bytes (run : Machine.Run machine Machine.anyStep past w) :
    results past = decoded (stream past) ∧
      past.flatMap bytes_read = (stream past).reduceOption ++ w.rx_buf ∧
      w.lora_rx_byte_count = .ofNat (past.flatMap bytes_read).length ∧
      w.lora_rx_success_count = .ofNat ((decoded (stream past)).countP is_ok) ∧
      w.lora_rx_error_count =
        .ofNat ((decoded (stream past)).countP is_error + (stream past).count none) ∧
      w.lora_command_drop_count = .ofNat (past.countP dropped) ∧
      (w.rx_buf ≠ [] → w.path.waiting = none → (machine.step w .push).isSome = true) := by
  have decodes := decodes_run run
  refine ⟨decodes.results, decodes.read, decodes.bytes, decodes.results ▸ decodes.success,
    decodes.results ▸ decodes.error, decodes.drops, fun hbuf hwaiting => ?_⟩
  obtain ⟨byte, rest, hcons⟩ := List.exists_cons_of_ne_nil hbuf
  obtain ⟨buffer, result, hpush, -⟩ := decoded_push byte decodes.holds
  simp only [machine, LoraRx.step, LoraRx.push, hwaiting, hcons, hpush]
  split <;> rfl

/-- Two emergencies cut over three reads, behind the start of a frame that an error of the UART
breaks off. -/
def cut_uplink : List LoraRx.Action :=
  .read [0x55, 1] :: .push :: .push :: .read_error :: .read [0x55, 1, 7, 0] ::
    List.replicate 4 .push ++ .read [0, 0, 0, 0, 0, 0, 0x53, 0x55] :: List.replicate 8 .push ++
      .read [2, 8, 0, 0, 0, 0, 0, 0, 0, 0x5f] :: List.replicate 10 .push ++ [.other (.path .can_take)]

theorem uplink_of_bytes_cut : ∃ past, decoded (stream past) =
    [.ok (.ActuatorEmergency 7), .ok (.LiftoffDetectionEmergency 8)] ∧ (stream past).count none = 1 := by
  obtain ⟨past, w, run, hresults, herror⟩ : ∃ past w, Machine.Run machine Machine.anyStep past w ∧
      results past = [.ok (.ActuatorEmergency 7), .ok (.LiftoffDetectionEmergency 8)] ∧
        (stream past).count none = 1 :=
    Machine.exists_run (fun _ past =>
      results past = [.ok (.ActuatorEmergency 7), .ok (.LiftoffDetectionEmergency 8)] ∧
        (stream past).count none = 1) cut_uplink rfl (fun _ _ _ => trivial) (by decide +kernel)
  exact ⟨past, (uplink_of_bytes run).1 ▸ hresults, herror⟩

/-- The emergencies in the bytes of the uplink are attempted on the CAN bus in their order, or are still
on their way. None is dropped and none comes twice. -/
theorem emergencies_of_bytes (run : Machine.Run machine Machine.anyStep past w) :
    ((decoded (stream past)).filterMap Except.toOption).filterMap Emergency.emergencyOf =
      (Emergency.ended (past.flatMap path_report) ++ Emergency.inHand w.path.path.can).filter
          Emergency.emergency ++
        w.path.path.state.can_safety_tx_channel.items.filter Emergency.emergency ++
          w.path.waiting.toList := by
  have decodes := decodes_run run
  have haccepted (past : List EmergencyPath.Report) :
      Emergency.accepted past = (past.filterMap command).filterMap Emergency.emergencyOf := by
    rw [List.filterMap_filterMap, Emergency.accepted]
    refine List.filterMap_congr fun r _ => ?_
    cases r <;> rfl
  rw [← decodes.results, ← decodes.commands, ← haccepted]
  exact (Emergency.accounted_run (refines_path run)).in_order

theorem emergencies_of_bytes_cut : ∃ (past : List RxReport) (w : LoraRx),
    ((decoded (stream past)).filterMap Except.toOption).filterMap Emergency.emergencyOf =
        [.ActuatorEmergencyStop 7, .LiftoffEmergencyStop 8] ∧
      Emergency.inHand w.path.path.can = [.ActuatorEmergencyStop 7] ∧
      w.path.path.state.can_safety_tx_channel.items = [.LiftoffEmergencyStop 8] := by
  obtain ⟨past, w, run, hinHand, hchannel, hended, hwaiting⟩ :
      ∃ past w, Machine.Run machine Machine.anyStep past w ∧
        Emergency.inHand w.path.path.can = [.ActuatorEmergencyStop 7] ∧
          w.path.path.state.can_safety_tx_channel.items = [.LiftoffEmergencyStop 8] ∧
            Emergency.ended (past.flatMap path_report) = [] ∧ w.path.waiting = none :=
    Machine.exists_run (fun (w : LoraRx) past =>
      Emergency.inHand w.path.path.can = [.ActuatorEmergencyStop 7] ∧
        w.path.path.state.can_safety_tx_channel.items = [.LiftoffEmergencyStop 8] ∧
          Emergency.ended (past.flatMap path_report) = [] ∧ w.path.waiting = none) cut_uplink rfl
      (fun _ _ _ => trivial) (by decide +kernel)
  refine ⟨past, w, ?_, hinHand, hchannel⟩
  rw [emergencies_of_bytes run, hinHand, hchannel, hended, hwaiting]
  rfl

end Results

end Comboard.UplinkBytes
