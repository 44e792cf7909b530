import Comboard.Code.GroundTime
import Comboard.LoraCodec

/-!
# The ground time requests leave in the order in which they came

`previous_request_id` stays the newest accepted request, wherever that is by now.
-/

namespace Comboard.GroundTime

open Lib GroundTimeQueue

/-! ## What happened to the requests -/

def accepted (past : List GroundTimeQueue.Report) : List (UInt8 × LoRaTxEnvelope) :=
  past.filterMap fun
    | .accepted request_id envelope => some (request_id, envelope)
    | _ => none

/-- Taken by the LoRa task or dropped. -/
def left (past : List GroundTimeQueue.Report) : List LoRaTxEnvelope :=
  past.filterMap fun
    | .removed envelope | .dropped envelope => some envelope
    | _ => none

def isIgnored : GroundTimeQueue.Report → Bool
  | .ignored _ => true
  | _ => false

def isDropped : GroundTimeQueue.Report → Bool
  | .dropped _ => true
  | _ => false

def isOtherDrop : GroundTimeQueue.Report → Bool
  | .other_drop => true
  | _ => false

/-- The newest request was lost. -/
def isLost : GroundTimeQueue.Report → Bool
  | .encode_error _ | .overflow _ => true
  | _ => false

/-! ## One arrival -/

/-- The request as it waits in the channel. -/
def Envelope (request_id : UInt8) (envelope : LoRaTxEnvelope) : Prop :=
  ∃ frame, (ApplicationPacket.GroundTimeRequest request_id).encode = .ok frame ∧
    envelope = .queued frame .GroundTimeRequest

inductive Arrival (q : GroundTimeQueue) (request_id : UInt8) :
    GroundTimeQueue → List GroundTimeQueue.Report → Prop where
  | ignored (hprevious : q.previous_request_id = some request_id) :
      Arrival q request_id
        { q with
          lora_ground_time_request_duplicate_count := q.lora_ground_time_request_duplicate_count + 1 }
        [.ignored request_id]
  | sent {envelope : LoRaTxEnvelope} {channel : Channel LoRaTxEnvelope 8}
      (hprevious : q.previous_request_id ≠ some request_id) (henvelope : Envelope request_id envelope)
      (hroom : q.ground_time_request_lora_channel.is_full = false)
      (hsent : channel.items = q.ground_time_request_lora_channel.items ++ [envelope]) :
      Arrival q request_id
        { q with
          ground_time_request_lora_channel := channel, previous_request_id := some request_id }
        [.accepted request_id envelope]
  | replaced {envelope oldest : LoRaTxEnvelope} {rest : List LoRaTxEnvelope}
      {channel : Channel LoRaTxEnvelope 8}
      (hprevious : q.previous_request_id ≠ some request_id) (henvelope : Envelope request_id envelope)
      (hfull : q.ground_time_request_lora_channel.is_full = true)
      (holdest : q.ground_time_request_lora_channel.items = oldest :: rest)
      (hsent : channel.items = rest ++ [envelope]) :
      Arrival q request_id
        { q.count_drop with
          ground_time_request_lora_channel := channel, previous_request_id := some request_id }
        [.dropped oldest, .accepted request_id envelope]

theorem ground_time_request_encodes (request_id : UInt8) :
    ∃ frame, (ApplicationPacket.GroundTimeRequest request_id).encode = .ok frame := by
  refine (LoraCodec.encode_iff _).mpr ⟨trivial, ?_⟩
  intro field hfield
  have hid := request_id.toNat_lt
  simp only [LoraCodec.layout, List.mem_cons, List.not_mem_nil, or_false] at hfield
  rcases hfield with rfl | rfl <;> dsimp only <;> omega

theorem send_room {q : GroundTimeQueue} (request_id : UInt8) (envelope : LoRaTxEnvelope)
    (h : q.ground_time_request_lora_channel.is_full = false) :
    ∃ channel, channel.items = q.ground_time_request_lora_channel.items ++ [envelope] ∧
      q.send request_id envelope =
        ({ q with
            ground_time_request_lora_channel := channel, previous_request_id := some request_id },
          [.accepted request_id envelope]) := by
  obtain ⟨channel, hsend, hitems⟩ := Channel.try_send_room envelope h
  exact ⟨channel, hitems, by rw [send, hsend]⟩

/-- There is always room for the newest request. -/
theorem arrival (q : GroundTimeQueue) (request_id : UInt8) :
    Arrival q request_id (q.queue_ground_time_request request_id).1
      (q.queue_ground_time_request request_id).2 := by
  obtain ⟨frame, hframe⟩ := ground_time_request_encodes request_id
  unfold queue_ground_time_request
  dsimp only
  by_cases hprevious : q.previous_request_id = some request_id
  · rw [ground_time_queue_action, if_pos hprevious]
    exact .ignored hprevious
  rw [ground_time_queue_action, if_neg hprevious, hframe]
  cases hfull : q.ground_time_request_lora_channel.is_full with
  | true =>
    obtain ⟨oldest, channel, hreceive, holdest, hroom⟩ := Channel.try_receive_full (by decide) hfull
    have hdrop : q.drop_oldest =
        ({ q with ground_time_request_lora_channel := channel }.count_drop, [.dropped oldest]) := by
      rw [drop_oldest, hreceive]
    obtain ⟨channel', hsent, hsend⟩ := send_room (q := q.drop_oldest.1) request_id
      (.queued frame .GroundTimeRequest) (by rw [hdrop]; exact hroom)
    rw [hdrop] at hsent hsend
    dsimp only [if_true]
    rw [if_pos rfl, if_neg nofun, if_pos rfl, hdrop, hsend]
    exact .replaced hprevious ⟨frame, hframe, rfl⟩ hfull holdest hsent
  | false =>
    obtain ⟨channel, hsent, hsend⟩ := send_room request_id (.queued frame .GroundTimeRequest) hfull
    dsimp only
    rw [if_neg nofun, if_neg nofun, hsend]
    exact .sent hprevious ⟨frame, hframe, rfl⟩ hfull hsent

/-! ## Every run -/

/-- The counters go around at `2 ^ 32`. -/
structure Accounted (past : List GroundTimeQueue.Report) (q : GroundTimeQueue) : Prop where
  /-- Each accepted request has left or is still there, in the order in which they came. -/
  in_order : (accepted past).map Prod.snd = left past ++ q.ground_time_request_lora_channel.items
  previous : q.previous_request_id = ((accepted past).map Prod.fst).getLast?
  duplicates : q.lora_ground_time_request_duplicate_count = .ofNat (past.countP isIgnored)
  drops : q.lora_ground_time_request_drop_count = .ofNat (past.countP isDropped)
  queue_drops : q.lora_tx_queue_drop_count =
    .ofNat (past.countP isDropped + past.countP isOtherDrop)
  none_lost : past.countP isLost = 0

theorem accounted_start : Accounted [] .new := ⟨rfl, rfl, rfl, rfl, rfl, rfl⟩

theorem accepted_append (past new : List GroundTimeQueue.Report) :
    accepted (past ++ new) = accepted past ++ accepted new := List.filterMap_append

theorem left_append (past new : List GroundTimeQueue.Report) :
    left (past ++ new) = left past ++ left new := List.filterMap_append

theorem counter_succ (n : Nat) : (UInt32.ofNat n) + 1 = .ofNat (n + 1) := (UInt32.ofNat_add n 1).symm

theorem accounted_arrival {past reports : List GroundTimeQueue.Report} {q q' : GroundTimeQueue}
    {request_id : UInt8} (accounted : Accounted past q) (h : Arrival q request_id q' reports) :
    Accounted (past ++ reports) q' := by
  obtain ⟨hin_order, hprevious, hduplicates, hdrops, hqueue, hlost⟩ := accounted
  cases h with
  | ignored =>
    refine ⟨?_, ?_, ?_, ?_, ?_, ?_⟩ <;>
      simp only [accepted_append, left_append, List.countP_append]
    · simpa [accepted, left] using hin_order
    · simpa [accepted] using hprevious
    · rw [hduplicates, counter_succ]
      rfl
    · exact hdrops
    · exact hqueue
    · exact hlost
  | @sent envelope channel _ _ _ hsent =>
    refine ⟨?_, ?_, ?_, ?_, ?_, ?_⟩ <;>
      simp only [accepted_append, left_append, List.countP_append]
    · have hleft : left [.accepted request_id envelope] = [] := rfl
      rw [List.map_append, hin_order, hsent, hleft, List.append_nil, List.append_assoc]
      rfl
    · rw [List.map_append]
      exact (List.getLast?_concat ..).symm
    · exact hduplicates
    · exact hdrops
    · exact hqueue
    · exact hlost
  | @replaced envelope oldest rest channel _ _ _ holdest hsent =>
    refine ⟨?_, ?_, ?_, ?_, ?_, ?_⟩ <;>
      simp only [accepted_append, left_append, List.countP_append]
    · have hleft : left [.dropped oldest, .accepted request_id envelope] = [oldest] := rfl
      have haccepted : accepted [.dropped oldest, .accepted request_id envelope] =
        [(request_id, envelope)] := rfl
      rw [List.map_append, hin_order, holdest, hsent, hleft, haccepted]
      simp
    · rw [List.map_append]
      exact (List.getLast?_concat ..).symm
    · exact hduplicates
    · rw [count_drop, hdrops, counter_succ]
      rfl
    · rw [count_drop, hqueue, counter_succ, Nat.add_right_comm]
      rfl
    · exact hlost

theorem accounted_step {past reports : List GroundTimeQueue.Report} {q q' : GroundTimeQueue}
    {a : GroundTimeQueue.Action} (accounted : Accounted past q)
    (h : machine.step q a = some (q', reports)) : Accounted (past ++ reports) q' := by
  cases a with
  | arrival request_id =>
    have harrival := arrival q request_id
    rw [show q.queue_ground_time_request request_id = (q', reports) from Option.some.inj h] at harrival
    exact accounted_arrival accounted harrival
  | remove =>
    obtain ⟨⟨envelope, channel⟩, hreceive, hafter⟩ := Option.map_eq_some_iff.mp h
    obtain ⟨rfl, rfl⟩ := Prod.mk.inj hafter
    obtain ⟨hin_order, hprevious, hduplicates, hdrops, hqueue, hlost⟩ := accounted
    have hitems := Channel.try_receive_some hreceive
    refine ⟨?_, ?_, ?_, ?_, ?_, ?_⟩ <;>
      simp only [accepted_append, left_append, List.countP_append]
    · rw [hitems] at hin_order
      simpa [accepted, left] using hin_order
    · simpa [accepted] using hprevious
    · exact hduplicates
    · exact hdrops
    · exact hqueue
    · exact hlost
  | other_drop =>
    obtain ⟨rfl, rfl⟩ := Prod.mk.inj (Option.some.inj h)
    obtain ⟨hin_order, hprevious, hduplicates, hdrops, hqueue, hlost⟩ := accounted
    refine ⟨?_, ?_, ?_, ?_, ?_, ?_⟩ <;>
      simp only [accepted_append, left_append, List.countP_append]
    · simpa [accepted, left] using hin_order
    · simpa [accepted] using hprevious
    · exact hduplicates
    · exact hdrops
    · rw [hqueue, counter_succ]
      rfl
    · exact hlost

theorem accounted_run {past : List GroundTimeQueue.Report} {q : GroundTimeQueue}
    (run : Machine.Run machine Machine.anyStep past q) : Accounted past q := by
  refine run.invariant ?_ fun _ _ _ _ _ _ accounted _ h => accounted_step accounted h
  rintro q rfl
  exact accounted_start

theorem ground_time_requests_in_order {past : List GroundTimeQueue.Report} {q : GroundTimeQueue}
    (run : Machine.Run machine Machine.anyStep past q) :
    Accounted past q ∧
    (∀ request_id, ∃ q' reports,
      machine.step q (.arrival request_id) = some (q', reports) ∧
      Arrival q request_id q' reports ∧
      -- Only the id of the newest accepted request is ignored.
      (((accepted past).map Prod.fst).getLast? = some request_id ↔ reports = [.ignored request_id])) ∧
    ∀ q' reports, machine.step q .remove = some (q', reports) → ∃ oldest,
      reports = [.removed oldest] ∧
      q.ground_time_request_lora_channel.items =
        oldest :: q'.ground_time_request_lora_channel.items := by
  have accounted := accounted_run run
  refine ⟨accounted, fun request_id => ?_, fun q' reports h => ?_⟩
  · have harrival := arrival q request_id
    refine ⟨(q.queue_ground_time_request request_id).1, (q.queue_ground_time_request request_id).2, rfl,
      harrival, ?_⟩
    rw [← accounted.previous]
    generalize (q.queue_ground_time_request request_id).1 = q' at harrival
    generalize (q.queue_ground_time_request request_id).2 = reports at harrival ⊢
    cases harrival with
    | ignored hprevious => exact ⟨fun _ => rfl, fun _ => hprevious⟩
    | sent hprevious | replaced hprevious =>
      exact ⟨fun h => absurd h hprevious, fun h => by simp at h⟩
  · obtain ⟨⟨oldest, channel⟩, hreceive, hafter⟩ := Option.map_eq_some_iff.mp h
    obtain ⟨rfl, rfl⟩ := Prod.mk.inj hafter
    exact ⟨oldest, rfl, Channel.try_receive_some hreceive⟩

/-- Nine requests fill the channel, and the ninth replaces the first. -/
def nineRequests : List GroundTimeQueue.Action :=
  [.arrival 0, .arrival 0, .arrival 1, .arrival 2, .arrival 3, .arrival 4, .arrival 5, .arrival 6,
    .arrival 7, .arrival 8, .remove]

theorem ground_time_requests_in_order_nine :
    ∃ past q, Machine.Run machine Machine.anyStep past q ∧ Accounted past q ∧
      q.lora_ground_time_request_drop_count = 1 ∧ (accepted past).length = 9 := by
  obtain ⟨past, q, run, hdrops, haccepted⟩ : ∃ past q, Machine.Run machine Machine.anyStep past q ∧
      q.lora_ground_time_request_drop_count = 1 ∧ (accepted past).length = 9 :=
    Machine.exists_run (fun (q : GroundTimeQueue) past => q.lora_ground_time_request_drop_count = 1 ∧
      (accepted past).length = 9) (s := GroundTimeQueue.new) nineRequests rfl
      (fun _ _ _ => trivial) (by decide +kernel)
  exact ⟨past, q, run, (ground_time_requests_in_order run).1, hdrops, haccepted⟩

end Comboard.GroundTime
