import Comboard.Delivery

/-!
# A mission event is latched until a Flight packet carried it

The clear compares revisions, so it forgets nothing that came behind the snapshot.
-/

namespace Comboard.Events

open Lib LoraTx LoraSteps

/-! ## Bits -/

def hasBit (value : UInt16) (b : Nat) : Bool := value.toBitVec.getLsbD b

@[simp]
theorem hasBit_or (v w : UInt16) (b : Nat) : hasBit (v ||| w) b = (hasBit v b || hasBit w b) := by
  simp [hasBit]

@[simp]
theorem hasBit_and (v w : UInt16) (b : Nat) : hasBit (v &&& w) b = (hasBit v b && hasBit w b) := by
  simp [hasBit]

theorem hasBit_not {v : UInt16} {b : Nat} (hb : b < 16) : hasBit (~~~v) b = !hasBit v b := by
  simp [hasBit, hb]

theorem hasBit_lt {v : UInt16} {b : Nat} (h : hasBit v b = true) : b < 16 := by
  by_contra hb
  simp [hasBit, BitVec.getLsbD_of_ge _ _ (Nat.not_lt.mp hb)] at h

theorem hasBit_shift {bit : UInt16} (h : bit.toNat < 16) (b : Nat) :
    hasBit ((1 : UInt16) <<< bit) b = decide (b = bit.toNat) := by
  have hmod : bit.toNat % 16 = bit.toNat := Nat.mod_eq_of_lt h
  simp only [hasBit, UInt16.toBitVec_shiftLeft, BitVec.shiftLeft_eq', BitVec.getLsbD_shiftLeft]
  by_cases hb : b = bit.toNat
  · subst hb
    simp [h, hmod]
  · simp [hb, hmod]
    omega

theorem ne_zero_iff {v : UInt16} : v ≠ 0 ↔ ∃ b, hasBit v b = true := by
  constructor
  · intro h
    by_contra hnone
    refine h (UInt16.toBitVec_inj.mp (BitVec.eq_of_getLsbD_eq fun b _ => ?_))
    have hb : hasBit v b ≠ true := fun hb => hnone ⟨b, hb⟩
    simpa [hasBit] using hb
  · rintro ⟨b, hb⟩ rfl
    simp [hasBit] at hb

theorem bit_set_eq (value bit : UInt16) (h : bit.toNat < 16) :
    bit_set value bit = hasBit value bit.toNat := by
  rw [Bool.eq_iff_iff, bit_set, decide_eq_true_eq, ne_zero_iff]
  simp [hasBit_shift h]

theorem hasBit_flag (value : Bool) {bit : UInt16} (h : bit.toNat < 16) (b : Nat) :
    hasBit (flag value bit) b = (value && decide (b = bit.toNat)) := by
  cases value with
  | false => simp [flag, hasBit]
  | true => exact (hasBit_shift h b).trans (Bool.true_and _).symm

/-- The position of a mission event in the status of a Flight packet. -/
def flightBit : Nat → Nat
  | 0 => 9
  | 1 => 10
  | 2 => 11
  | 3 => 12
  | _ => 14

theorem hasBit_mapped {events : UInt16} {b : Nat} (hb : b < 5) (h : hasBit events b = true) :
    hasBit (map_flight_interval_events events) (flightBit b) = true := by
  simp (disch := decide) only [map_flight_interval_events, hasBit_or, hasBit_flag, bit_set_eq]
  match b, hb with
  | 0, _ | 1, _ | 2, _ | 3, _ | 4, _ => simp [flightBit, h]

theorem hasBit_interval {events : UInt16} {b : Nat} (h : hasBit (events &&& 0x001f) b = true) :
    b < 5 ∧ hasBit events b = true := by
  rw [hasBit_and, Bool.and_eq_true] at h
  refine ⟨?_, h.1⟩
  by_contra hb
  have hmask := h.2
  rw [hasBit, BitVec.getLsbD, Nat.testBit_lt_two_pow] at hmask
  · cases hmask
  · exact lt_of_lt_of_le (by decide) (Nat.pow_le_pow_right (by decide) (Nat.not_lt.mp hb))

/-! ## The Flight packet -/

def flightHeader (header : PacketHeader) : Prop :=
  header = .LiftoffDetection ∨ header = .EngineBurn ∨ header = .Control

/-- The frame is a Flight packet whose status has the bit of the event. -/
def Carries (frame : LoraFrame) (b : Nat) : Prop :=
  ∃ flight : FlightTelemetry, flightHeader flight.header ∧
    (ApplicationPacket.Flight flight).encode = .ok frame ∧
      hasBit flight.status (flightBit b) = true

theorem finish_some {packet : ApplicationPacket} {events : UInt16} {revision : UInt32}
    {v2 cycle : Bool} {p : PeriodicPacket}
    (h : finish_periodic_packet packet events revision v2 cycle = some p) :
    packet.encode = .ok p.frame ∧ p.transmitted_events = events ∧ p.event_revision = revision := by
  unfold finish_periodic_packet at h
  split at h <;> rename_i hencode
  · simp at h
  · obtain rfl := Option.some.inj h
    exact ⟨hencode, rfl, rfl⟩

/-- The events that a packet answers for are bits 0 to 4, and its frame carries them. -/
structure Answers (p : PeriodicPacket) (cache : CanCache) : Prop where
  revision : p.event_revision = cache.event_revision
  events : ∀ b, hasBit p.transmitted_events b = true → b < 5 ∧ Carries p.frame b

theorem finish_no_events {packet : ApplicationPacket} {cache : CanCache} {v2 cycle : Bool}
    {p : PeriodicPacket}
    (h : finish_periodic_packet packet 0 cache.event_revision v2 cycle = some p) :
    Answers p cache := by
  obtain ⟨-, hevents, hrevision⟩ := finish_some h
  exact ⟨hrevision, fun b hb => by simp [hevents, hasBit] at hb⟩

theorem finish_flight {m : MissionInputs} {header : PacketHeader} {cache : CanCache}
    {v2 cycle : Bool} {p : PeriodicPacket} (hheader : flightHeader header)
    (h : finish_periodic_packet (.Flight (flight_packet m header cache.event_flags_latched))
      (cache.event_flags_latched &&& 0x001f) cache.event_revision v2 cycle = some p) :
    Answers p cache := by
  obtain ⟨hencode, hevents, hrevision⟩ := finish_some h
  refine ⟨hrevision, fun b hb => ?_⟩
  rw [hevents] at hb
  obtain ⟨hlt, hb⟩ := hasBit_interval hb
  refine ⟨hlt, _, hheader, hencode, ?_⟩
  simp [flight_packet, hasBit_mapped hlt hb]

/-- Only the arm of the three flight states answers for events. -/
theorem periodic_arm_events (cache : CanCache) (now_ms : Nat) (gnss : GnssTelemetry)
    (globals : LinkGlobals) (sequence : UInt8) (prefer event_only : Bool) :
    let arm := periodic_arm cache now_ms gnss globals sequence prefer event_only
    arm.transmitted_events = 0 ∨ arm.transmitted_events = cache.event_flags_latched &&& 0x001f ∧
      ∃ m header, flightHeader header ∧
        arm.choice = .packet (.Flight (flight_packet m header cache.event_flags_latched)) := by
  unfold periodic_arm
  dsimp only [CanCache.event_snapshot]
  generalize ((mission_inputs cache now_ms gnss globals).mission.map (·.state)).getD .Unknown = state
  split
  · exact .inl rfl
  · split
    · exact .inl rfl
    · split
      · exact .inl rfl
      · split
        · exact .inl rfl
        · cases state with
          | LiftoffDetection => exact .inr ⟨rfl, _, .LiftoffDetection, .inl rfl, rfl⟩
          | EngineBurn => exact .inr ⟨rfl, _, .EngineBurn, .inr (.inl rfl), rfl⟩
          | Control => exact .inr ⟨rfl, _, .Control, .inr (.inr rfl), rfl⟩
          | _ => exact .inl rfl

theorem periodic_packet_answers {cache : CanCache} {now_ms : Nat} {gnss : GnssTelemetry}
    {globals : LinkGlobals} {sequence : UInt8} {prefer event_only : Bool} {p : PeriodicPacket}
    (h : (periodic_packet_of cache now_ms gnss globals sequence prefer event_only).1 = some p) :
    Answers p cache := by
  have hevents := periodic_arm_events cache now_ms gnss globals sequence prefer event_only
  unfold periodic_packet_of at h
  dsimp only [CanCache.event_snapshot] at h hevents
  rcases hevents with hnone | ⟨hflight, m, header, hheader, hchoice⟩
  · rw [hnone] at h
    split at h
    · exact finish_no_events h
    · cases h
    · cases h
  · rw [hflight, hchoice] at h
    exact finish_flight hheader h

/-! ## The history -/

def isEvent : LoraReport → Bool
  | .mission_event _ => true
  | _ => false

def events (past : List LoraReport) : Nat := past.countP isEvent

theorem events_append (l l' : List LoraReport) : events (l ++ l') = events l + events l' :=
  List.countP_append

/-- Fewer than 2^32 events come between a snapshot and its clear. -/
def FewEvents (past : List LoraReport) : Prop :=
  ∀ before between after, past = before ++ .snapshot :: (between ++ .cleared :: after) →
    .snapshot ∉ between → events between < 2 ^ 32

theorem FewEvents.of_append {past reports : List LoraReport} (h : FewEvents (past ++ reports)) :
    FewEvents past := by
  rintro before between after rfl hbetween
  exact h before between (after ++ reports) (by simp) hbetween

/-- A Flight packet with the bit was transmitted, and its snapshot was taken in `past`. -/
def Transmitted (past : List LoraReport) (b : Nat) : Prop :=
  ∃ before between after e it choice,
    past = before ++ .snapshot :: (between ++ .attempted e it choice true :: after) ∧
      .snapshot ∉ between ∧ e.source = .Periodic ∧ Carries e.frame b

theorem Transmitted.append {past : List LoraReport} {b : Nat} (h : Transmitted past b)
    (reports : List LoraReport) : Transmitted (past ++ reports) b := by
  obtain ⟨before, between, after, e, it, choice, rfl, h⟩ := h
  exact ⟨before, between, after ++ reports, e, it, choice, by simp, h⟩

theorem split_behind {α : Type} {l m before after : List α} {a : α}
    (h : l ++ m = before ++ a :: after) (ha : a ∉ m) :
    ∃ after', l = before ++ a :: after' ∧ after = after' ++ m := by
  rcases List.append_eq_append_iff.mp h with ⟨t, -, hm⟩ | ⟨t, hl, ht⟩
  · exact absurd (hm ▸ List.mem_append_right t List.mem_cons_self) ha
  · cases t with
    | nil =>
      rw [List.nil_append] at ht
      exact absurd (ht ▸ List.mem_cons_self) ha
    | cons a' t =>
      obtain ⟨rfl, rfl⟩ := List.cons.inj ht
      exact ⟨t, hl, rfl⟩

/-! ## The invariant -/

/-- The envelope was built from the snapshot behind `past`. -/
structure BuiltFrom (past : List LoraReport) (e : LoRaTxEnvelope) : Prop where
  revision : e.event_revision = .ofNat (events past)
  events : ∀ b, hasBit e.interval_events b = true → b < 5 ∧ Carries e.frame b

/-- What is known of the newest snapshot. -/
def Known (past : List LoraReport) : LoraPoint → Prop
  | .Build _ _ _ cache => ∃ before after, past = before ++ .snapshot :: after ∧
      .snapshot ∉ after ∧ cache.event_revision = .ofNat (events before)
  | .Prepare _ e _ _ | .Transmit _ e _ _ =>
    e.source = .Periodic → ∃ before after, past = before ++ .snapshot :: after ∧
      .snapshot ∉ after ∧ BuiltFrom before e
  | .Clear e => ∃ before between after it choice,
      past = before ++ .snapshot :: (between ++ .attempted e it choice true :: after) ∧
        .snapshot ∉ between ∧ .snapshot ∉ after ∧ e.source = .Periodic ∧ BuiltFrom before e
  | _ => True

/-- Every bit of an event is latched, or was transmitted behind the event. -/
def Kept (past : List LoraReport) (latched : UInt16) : Prop :=
  ∀ before after flags b, past = before ++ .mission_event flags :: after →
    hasBit flags b = true → hasBit latched b = true ∨ b < 5 ∧ Transmitted after b

structure Latched (past : List LoraReport) (cache : CanCache) (point : LoraPoint) : Prop where
  revision : cache.event_revision = .ofNat (events past)
  known : Known past point
  kept : Kept past cache.event_flags_latched

theorem Known.append {past reports : List LoraReport} {point : LoraPoint} (h : Known past point)
    (hr : .snapshot ∉ reports) : Known (past ++ reports) point := by
  cases point with
  | Build it event_only now_ms cache =>
    obtain ⟨before, after, rfl, hafter, hrevision⟩ := h
    exact ⟨before, after ++ reports, by simp, by simp [hafter, hr], hrevision⟩
  | Prepare it e regular choice | Transmit it e displaced choice =>
    intro hperiodic
    obtain ⟨before, after, rfl, hafter, hbuilt⟩ := h hperiodic
    exact ⟨before, after ++ reports, by simp, by simp [hafter, hr], hbuilt⟩
  | Clear e =>
    obtain ⟨before, between, after, it, choice, rfl, hbetween, hafter, h⟩ := h
    exact ⟨before, between, after ++ reports, it, choice, by simp, hbetween, by simp [hafter, hr], h⟩
  | Top | Select it | Snapshot it event_only => trivial

theorem Kept.append {past reports : List LoraReport} {latched latched' : UInt16}
    (h : Kept past latched) (hr : ∀ flags, .mission_event flags ∉ reports)
    (hl : ∀ b, hasBit latched b = true → hasBit latched' b = true) :
    Kept (past ++ reports) latched' := by
  intro before after flags b hpast hb
  obtain ⟨after', hpast', rfl⟩ := split_behind hpast (hr flags)
  rcases h before after' flags b hpast' hb with h | ⟨hlt, h⟩
  · exact .inl (hl b h)
  · exact .inr ⟨hlt, h.append reports⟩

/-! ## Steps of the loop -/

theorem known_turn {now : Nat} {s s' : LoraShared} {h h' : HeldVars} {point point' : LoraPoint}
    {past reports : List LoraReport} (placed : Placed s h) (slots : Delivery.Slots h point)
    (latched : Latched past s.can_cache point)
    (turn : Turn now s h point s' h' point' reports) : Known (past ++ reports) point' := by
  have hknown := latched.known
  cases turn with
  | deferred hd => exact fun hperiodic => absurd hperiodic (slots.deferred _ hd).1
  | selected gets => exact fun hperiodic => absurd hperiodic (gets.not_periodic placed)
  | snapshot => exact ⟨past, [], rfl, List.not_mem_nil, latched.revision⟩
  | built _ hpacket =>
    intro _
    obtain ⟨before, after, hpast, hafter, hrevision⟩ := hknown
    have hanswers := periodic_packet_answers hpacket
    rw [List.append_nil]
    exact ⟨before, after, hpast, hafter, hanswers.revision.trans hrevision, hanswers.events⟩
  | kept =>
    rw [List.append_nil]
    exact hknown
  | preempted _ gets => exact fun hperiodic => absurd hperiodic (gets.not_periodic placed)
  | @transmitted it e displaced choice s' next ok after same hpoint =>
    subst hpoint
    split <;> rename_i hclear
    · simp only [should_clear_periodic_events, Bool.and_eq_true, decide_eq_true_eq] at hclear
      obtain ⟨⟨hperiodic, rfl⟩, -⟩ := hclear
      obtain ⟨before, between, hpast, hbetween, hbuilt⟩ := hknown hperiodic
      exact ⟨before, between, [], it, choice, by simp [hpast], hbetween, List.not_mem_nil, hperiodic,
        hbuilt⟩
    · trivial
  | _ => trivial

/-- The cache changes at the end of an iteration only. -/
theorem turn_cache {now : Nat} {s s' : LoraShared} {h h' : HeldVars} {point point' : LoraPoint}
    {reports : List LoraReport} (turn : Turn now s h point s' h' point' reports)
    (hpoint : ∀ e, point ≠ .Clear e) :
    s'.can_cache = s.can_cache ∧ ∀ flags, .mission_event flags ∉ reports := by
  cases turn with
  | selected gets | put_back gets =>
    cases gets with
    | held => exact ⟨rfl, by simp⟩
    | queued h => exact ⟨h.can_cache, by simp⟩
  | preempted _ gets same =>
    cases gets with
    | held => exact ⟨same.can_cache, by simp⟩
    | queued h => exact ⟨same.can_cache.trans h.can_cache, by simp⟩
  | control_roll same | no_event_packet same | no_packet same | built same | prepare_failed same
  | transmitted same => exact ⟨same.can_cache, by simp⟩
  | deferred | waits | periodic | snapshot | kept => exact ⟨rfl, by simp⟩
  | cleared => exact absurd rfl (hpoint _)

/-- Revisions tell apart what fewer than 2^32 events lie between. -/
theorem no_events_between {past before after : List LoraReport}
    (hpast : past = before ++ .snapshot :: after) (hfew : events after < 2 ^ 32)
    (hrevision : UInt32.ofNat (events past) = .ofNat (events before)) : events after = 0 := by
  have hcount : events past = events before + events after := by
    rw [hpast, events_append]
    rfl
  have hmod := congrArg UInt32.toNat hrevision
  simp only [UInt32.toNat_ofNat', hcount] at hmod
  omega

/-- A bit that is cleared was transmitted behind every event that has it. -/
theorem cleared_transmitted {past before after : List LoraReport} {latched : CanCache}
    {e : LoRaTxEnvelope} {flags : UInt16} {b : Nat}
    (hfew : FewEvents (past ++ [.cleared])) (inv : Latched past latched (.Clear e))
    (hpast : past = before ++ .mission_event flags :: after)
    (hrevision : latched.event_revision = e.event_revision)
    (hb : hasBit e.interval_events b = true) : b < 5 ∧ Transmitted after b := by
  obtain ⟨front, between, behind, it, choice, hsplit, hbetween, hbehind, hperiodic, hbuilt⟩ :=
    inv.known
  obtain ⟨hlt, hcarries⟩ := hbuilt.events b hb
  refine ⟨hlt, ?_⟩
  have hnone : events (between ++ .attempted e it choice true :: behind) = 0 := by
    refine no_events_between hsplit (hfew front _ [] (by simp [hsplit]) (by simp [hbetween, hbehind])) ?_
    rw [← inv.revision, hrevision, hbuilt.revision]
  have hmem : .mission_event flags ∉ .snapshot :: (between ++ .attempted e it choice true :: behind) := by
    simp only [List.mem_cons, reduceCtorEq, false_or]
    intro hmem
    exact List.countP_eq_zero.mp hnone _ hmem rfl
  obtain ⟨front', -, hafter⟩ := split_behind (hsplit.symm.trans hpast) hmem
  exact ⟨front', between, behind, e, it, choice, hafter, hbetween, hperiodic, hcarries⟩

theorem latched_cleared {past : List LoraReport} {cache : CanCache} {e : LoRaTxEnvelope}
    (hfew : FewEvents (past ++ [.cleared])) (inv : Latched past cache (.Clear e)) :
    Latched (past ++ [.cleared]) (cache.clear_event_flags e.interval_events e.event_revision)
      .Top := by
  refine ⟨?_, trivial, ?_⟩
  · rw [events_append]
    unfold CanCache.clear_event_flags
    split <;> exact inv.revision
  · unfold CanCache.clear_event_flags
    split <;> rename_i hrevision
    · intro before after flags b hpast hb
      obtain ⟨after', hpast', rfl⟩ := split_behind hpast (by simp)
      rcases inv.kept before after' flags b hpast' hb with hlatched | ⟨hlt, htransmitted⟩
      · cases hclears : hasBit e.interval_events b with
        | true =>
          obtain ⟨hlt, htransmitted⟩ := cleared_transmitted hfew inv hpast' hrevision hclears
          exact .inr ⟨hlt, htransmitted.append _⟩
        | false =>
          refine .inl ?_
          rw [hasBit_and, hlatched, hasBit_not (hasBit_lt hlatched), hclears]
          rfl
      · exact .inr ⟨hlt, htransmitted.append _⟩
    · exact inv.kept.append (by simp) fun b hb => hb

theorem latched_other {past reports : List LoraReport} {cache cache' : CanCache}
    {point : LoraPoint} (inv : Latched past cache point) (cached : Cached cache cache' reports) :
    Latched (past ++ reports) cache' point := by
  cases cached with
  | kept hflags hrevision =>
    rw [List.append_nil]
    exact ⟨hrevision.trans inv.revision, inv.known, hflags ▸ inv.kept⟩
  | @event flags hlatched hrevision =>
    refine ⟨?_, inv.known.append (by simp), ?_⟩
    · rw [hrevision, inv.revision, events_append]
      exact (UInt32.ofNat_add (events past) 1).symm
    · intro before after flags' b hpast hb
      rw [hlatched, hasBit_or]
      rcases List.append_eq_append_iff.mp hpast with ⟨t, hbefore, ht⟩ | ⟨t, hpast', ht⟩
      · cases t with
        | nil =>
          simp only [List.nil_append, List.cons.injEq, LoraReport.mission_event.injEq] at ht
          rw [ht.1, hb]
          exact .inl (Bool.or_true _)
        | cons r t => simp at ht
      · cases t with
        | nil =>
          simp only [List.nil_append, List.cons.injEq, LoraReport.mission_event.injEq] at ht
          rw [← ht.1, hb]
          exact .inl (Bool.or_true _)
        | cons r t =>
          obtain ⟨rfl, rfl⟩ := List.cons.inj ht
          rcases inv.kept before t flags' b hpast' hb with h | ⟨hlt, h⟩
          · exact .inl (by rw [h, Bool.true_or])
          · exact .inr ⟨hlt, h.append _⟩

/-! ## Over a run -/

theorem latched_turn {now : Nat} {s s' : LoraShared} {h h' : HeldVars} {point point' : LoraPoint}
    {past reports : List LoraReport} (placed : Placed s h) (slots : Delivery.Slots h point)
    (hfew : FewEvents (past ++ reports)) (inv : Latched past s.can_cache point)
    (turn : Turn now s h point s' h' point' reports) :
    Latched (past ++ reports) s'.can_cache point' := by
  by_cases hpoint : ∃ e, point = .Clear e
  · obtain ⟨e, rfl⟩ := hpoint
    cases turn
    exact latched_cleared hfew inv
  · obtain ⟨hcache, hnone⟩ := turn_cache turn fun e he => hpoint ⟨e, he⟩
    refine ⟨?_, known_turn placed slots inv turn, hcache ▸ inv.kept.append hnone fun b hb => hb⟩
    have hevents : events reports = 0 := by
      refine List.countP_eq_zero.mpr fun r hr hevent => ?_
      cases r with
      | mission_event flags => exact hnone flags hr
      | _ => cases hevent
    rw [hcache, inv.revision, events_append, hevents, Nat.add_zero]

theorem latched_run {ok : LoraTx → Action → Prop} {past : List LoraReport} {w : LoraTx}
    (run : Machine.Run machine ok past w) (hfew : FewEvents past) :
    Latched past w.shared.can_cache w.point := by
  refine run.invariant
    (I := fun past w => FewEvents past → Latched past w.shared.can_cache w.point) ?_ ?_ hfew
  · rintro w ⟨started_at, now, -, -, rfl⟩ -
    exact ⟨rfl, trivial, fun before after flags b hpast => by simp at hpast⟩
  · intro past w a w' reports run inv _ h hfew
    have inv := inv hfew.of_append
    cases step_stepped h with
    | other _ arrives _ hpoint => exact hpoint ▸ latched_other inv arrives.cached
    | turn _ _ turn =>
      exact latched_turn (placed_run run) (Delivery.slots_run run) hfew inv turn

/-- A bit of an event stays latched until a Flight packet with a snapshot behind the event was
transmitted. Bits from 5 on stay latched for good. -/
theorem event_latched_until_transmitted {past before after : List LoraReport} {w : LoraTx}
    {flags : UInt16} {b : Nat} (run : Machine.Run machine Machine.anyStep past w)
    (hfew : FewEvents past) (hpast : past = before ++ .mission_event flags :: after)
    (hb : hasBit flags b = true) :
    hasBit w.shared.can_cache.event_flags_latched b = true ∨ b < 5 ∧ Transmitted after b :=
  (latched_run run hfew).kept before after flags b hpast hb

/-! ## An event that is transmitted and cleared -/

theorem fewEvents_of_lt {past : List LoraReport} (h : events past < 2 ^ 32) : FewEvents past := by
  rintro before between after rfl -
  have hsplit : events (before ++ .snapshot :: (between ++ .cleared :: after)) =
      events before + (events [.snapshot] + (events between + events (.cleared :: after))) := by
    rw [events_append, ← List.singleton_append, events_append, events_append]
  omega

def transmitEvent : List Action :=
  [.can_receive (.MissionEvent ⟨1, 1, .Control, 0, 0⟩) 0,
    .can_receive (.MissionStatus ⟨0, .Control, 0, 0, .Free, .Free, 0⟩) 400,
    .begin_iteration 0, .select 500000 500000 500000, .snapshot 500000, .build 500000,
    .prepared 500000, .transmitted true 600000 600000, .clear_events]

/-- The event is reported first, and it is not latched any more. -/
def eventGone (past : List LoraReport) (w : LoraTx) : Bool :=
  past.head? = some (.mission_event 1) && past.length < 100 &&
    !hasBit w.shared.can_cache.event_flags_latched 0

theorem event_latched_until_transmitted_once :
    ∃ past w, Machine.Run machine Machine.anyStep (.mission_event 1 :: past) w ∧
      hasBit w.shared.can_cache.event_flags_latched 0 = false ∧ Transmitted past 0 := by
  have hrun : ∃ past w, Machine.Run machine Machine.anyStep past w ∧ eventGone past w :=
    Machine.exists_run (fun w past => eventGone past w) transmitEvent entered_starts
      (fun _ _ _ => trivial) (by decide +kernel)
  obtain ⟨past, w, run, hgone⟩ := hrun
  simp only [eventGone, Bool.and_eq_true, decide_eq_true_eq, Bool.not_eq_true'] at hgone
  obtain ⟨⟨hhead, hlength⟩, hcleared⟩ := hgone
  cases past with
  | nil => simp at hhead
  | cons r past =>
    obtain rfl := Option.some.inj hhead
    have hfew : FewEvents (.mission_event 1 :: past) :=
      fewEvents_of_lt (lt_of_le_of_lt List.countP_le_length (hlength.trans (by decide)))
    have hb : hasBit 1 0 = true := by decide
    have hpast : .mission_event 1 :: past = [] ++ .mission_event 1 :: past := rfl
    rcases event_latched_until_transmitted run hfew hpast hb with h | ⟨-, h⟩
    · rw [hcleared] at h
      cases h
    · exact ⟨past, w, run, hcleared, h⟩

end Comboard.Events
