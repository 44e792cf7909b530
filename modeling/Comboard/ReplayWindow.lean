import Comboard.Tracker

/-!
# How long a finished request is replayed

The cache fills its cells in turn, at the *first* result of a request. A final
result that only updates its cell does not make the cell younger.
-/

namespace Comboard.ReplayWindow

open Lib TransactionTracker Tracker

instance (x : CommandResult) (r : GenericCommandRequest) : Decidable (ResultFor x r) :=
  inferInstanceAs (Decidable (_ ∧ _))

/-- A final result that was accepted for another transaction than `id`. -/
def FinalElsewhere (id : UInt8) : Event → Bool
  | .applied x true => x.phase.is_final && x.transaction_id ≠ id
  | _ => false

/-- `f` was accepted for `r`, and `later` are the calls after it. -/
def ReplaysInWindow (t : TransactionTracker) (r : GenericCommandRequest) (f : CommandResult)
    (later : List Call) : Prop :=
  ∀ p s, later = p ++ s → (history t p).countP (FinalElsewhere r.transaction_id) < 16 →
    ((exec t p).register r).2 = .Replay f

/-- The call is a result for a pending request that has no cache cell yet. -/
def takesSlot (t : TransactionTracker) : Call → Bool
  | .register _ => false
  | .apply_result x =>
    (t.pending.entries.any fun p => ResultFor x p.request) &&
      !t.results.entries.any fun c => ResultFor x c.request

def slotsTaken (t : TransactionTracker) : List Call → Nat
  | [] => 0
  | c :: calls => (takesSlot t c).toNat + slotsTaken (after t c) calls

/-- How many cells were filled after the cell of `r`; the capacity if `r` has none. -/
def slotAge (t : TransactionTracker) (r : GenericCommandRequest) : Nat :=
  match t.results.locate fun c => c.request = r with
  | some (i, _) => Table.ringAge t.next_result i
  | none => RESULT_CACHE_CAPACITY

/-! ## The cell of a finished request -/

/-- `r` is finished with `f`, in cell `i`. -/
structure Finished (t : TransactionTracker) (r : GenericCommandRequest) (f : CommandResult)
    (i : Fin RESULT_CACHE_CAPACITY) : Prop where
  sound : Sound t
  cell : getElem t.results i i.isLt = some ⟨r, f⟩
  idle : ∀ p, some p ∈ t.pending → p.request.transaction_id ≠ r.transaction_id

theorem finished_replays {t : TransactionTracker} {r : GenericCommandRequest} {f : CommandResult}
    {i : Fin RESULT_CACHE_CAPACITY} (h : Finished t r f i) : (t.register r).2 = .Replay f := by
  have hmem : some (⟨r, f⟩ : CachedEntry) ∈ t.results := Table.mem_of_cell h.cell
  have hp : (t.pending.entries.find? fun entry =>
      entry.request.transaction_id = r.transaction_id) = none := by
    simpa using h.idle
  have hc : (t.results.entries.find? fun entry =>
      entry.request.transaction_id = r.transaction_id) = some ⟨r, f⟩ := by
    obtain ⟨c, hfind⟩ : ∃ c, (t.results.entries.find? fun entry =>
        entry.request.transaction_id = r.transaction_id) = some c := by
      rw [← Option.isSome_iff_exists, List.find?_isSome]
      exact ⟨_, by simpa using hmem, by simp⟩
    have hid : c.request.transaction_id = r.transaction_id := by simpa using List.find?_some hfind
    have hcm : some c ∈ t.results := by simpa using List.mem_of_find?_eq_some hfind
    rw [hfind, h.sound.cachedKeyed.unique hcm hmem hid]
  unfold register
  rw [hp, hc]
  simp

/-- Each cell is that of one request. -/
theorem slotAge_eq_ringAge {t : TransactionTracker} (hs : Sound t) {i : Fin RESULT_CACHE_CAPACITY}
    {entry : CachedEntry} (hcell : getElem t.results i i.isLt = some entry) :
    slotAge t entry.request = Table.ringAge t.next_result i := by
  unfold slotAge
  split <;> rename_i hl
  · obtain ⟨hcell', hreq⟩ := Table.locate_some hl
    simp only [decide_eq_true_eq] at hreq
    rw [hs.cachedKeyed _ i _ _ hcell' hcell (by simp [hreq])]
  · have := Table.locate_none.mp hl _ (Table.mem_of_cell hcell)
    simp at this

theorem takesSlot_false {t : TransactionTracker} {x : CommandResult}
    (h : ∀ p, some p ∈ t.pending → ¬ ResultFor x p.request) : takesSlot t (.apply_result x) = false := by
  simp only [takesSlot, Bool.and_eq_false_iff, List.any_eq_false, Table.mem_entries,
    decide_eq_true_eq]
  exact Or.inl h

theorem takesSlot_true {t : TransactionTracker} {x : CommandResult} {q : GenericCommandRequest}
    (hpending : some (⟨q⟩ : PendingEntry) ∈ t.pending) (hx : ResultFor x q) :
    takesSlot t (.apply_result x) = true ↔ ∀ c, some c ∈ t.results → ¬ ResultFor x c.request := by
  simp only [takesSlot, Bool.and_eq_true, List.any_eq_true, Table.mem_entries, decide_eq_true_eq,
    Bool.not_eq_true', List.any_eq_false]
  exact and_iff_right ⟨⟨q⟩, hpending, hx⟩

/-- One call: the finished request keeps its cell, unless its cell is the oldest and is taken. -/
theorem finished_after {t : TransactionTracker} {r : GenericCommandRequest} {f : CommandResult}
    {i : Fin RESULT_CACHE_CAPACITY} (h : Finished t r f i) (c : Call) :
    (Finished (after t c) r f i ∧ Table.ringAge (after t c).next_result i =
        Table.ringAge t.next_result i + (takesSlot t c).toNat) ∨
      takesSlot t c = true ∧ t.next_result = i ∧ ((after t c).register r).2 ≠ .Replay f := by
  have hs := h.sound
  have hcached : some (⟨r, f⟩ : CachedEntry) ∈ t.results := Table.mem_of_cell h.cell
  have hsound : Sound (after t c) := sound_after hs c
  cases c with
  | register q =>
    left
    by_cases hf : (t.register q).2 = .Forward
    · obtain ⟨-, hc, slot, hfree, heq⟩ := register_forward hf
      refine ⟨⟨hsound, by simpa [after, heq] using h.cell, fun p hp => ?_⟩, by simp [after, heq, takesSlot]⟩
      rw [after, heq] at hp
      rcases (Table.mem_set_free hfree).mp hp with rfl | hp
      · exact (hc _ hcached).symm
      · exact h.idle p hp
    · have hkeep : after t (.register q) = t := register_keeps hf
      rw [hkeep]
      exact ⟨h, by simp [takesSlot]⟩
  | apply_result x =>
    rcases apply_result_cases t x with ⟨heq, hno⟩ | ⟨-, index, q, hcell, hx, hst⟩
    · left
      have hkeep : after t (.apply_result x) = t := by rw [after, heq]
      rw [hkeep, takesSlot_false hno]
      exact ⟨h, rfl⟩
    have hidle : ∀ p, some p ∈ (after t (.apply_result x)).pending →
        p.request.transaction_id ≠ r.transaction_id := fun p hp =>
      h.idle p ((mem_pending_after hs hcell hst p).mp hp).1
    have hq : q.transaction_id ≠ r.transaction_id := h.idle ⟨q⟩ (Table.mem_of_cell hcell)
    have htakes := takesSlot_true (Table.mem_of_cell hcell) hx
    obtain ⟨-, ⟨slot, old, hold, hid, hres, hnext⟩ | ⟨hnone, hres, hnext⟩⟩ := hst
    · -- The cell of another request is updated in place.
      left
      have hslot : slot ≠ i := by
        rintro rfl
        rw [h.cell, Option.some.injEq] at hold
        exact hq (hold ▸ hid).symm
      refine ⟨⟨hsound, ?_, hidle⟩, ?_⟩
      · rw [after, hres, Table.cell_set, if_neg hslot]; exact h.cell
      · have hfor : ResultFor x old.request := by
          rw [hs.cached_request hcell (Table.mem_of_cell hold) hid]; exact hx
        have : takesSlot t (.apply_result x) = false := by
          rw [← Bool.not_eq_true, htakes]
          exact fun hn => hn old (Table.mem_of_cell hold) hfor
        simp [after, hnext, this]
    · have htrue : takesSlot t (.apply_result x) = true :=
        htakes.mpr fun c hc hfor => hnone c hc ⟨hfor.1.symm.trans hx.1, hfor.2.symm.trans hx.2⟩
      by_cases hi : t.next_result = i
      · -- The ring comes round to the cell of `r`.
        right
        refine ⟨htrue, hi, fun hrep => ?_⟩
        have hmem := register_replay hrep
        rw [after, hres, Table.mem_set, Option.some.injEq] at hmem
        rcases hmem with hmem | ⟨j, hj, hmem⟩
        · exact hq (by rw [CachedEntry.mk.injEq] at hmem; rw [hmem.1])
        · exact hj ((hs.cachedKeyed j i _ _ hmem h.cell rfl).trans hi.symm)
      · left
        refine ⟨⟨hsound, ?_, hidle⟩, ?_⟩
        · rw [after, hres, Table.cell_set, if_neg hi]; exact h.cell
        · rw [htrue, after, hnext, Table.ringAge_next (Ne.symm hi)]
          rfl

/-! ## The age of a cell -/

/-- The first result of `r`, for which it got its cell, was `x`. The calls after it are `since`. -/
structure TookSlot (calls : List Call) (r : GenericCommandRequest) (before : List Call)
    (x : CommandResult) (since : List Call) : Prop where
  calls : calls = before ++ .apply_result x :: since
  pending : some (⟨r⟩ : PendingEntry) ∈ (exec new before).pending
  answers : ResultFor x r
  takes : takesSlot (exec new before) (.apply_result x) = true

/-- One call: a cell gets one older with every cell that is taken, or is taken by its request. -/
theorem cell_before {t : TransactionTracker} (hs : Sound t) (c : Call)
    {i : Fin RESULT_CACHE_CAPACITY} {r : GenericCommandRequest} {f : CommandResult}
    (hcell : getElem (after t c).results i i.isLt = some ⟨r, f⟩) :
    (∃ f, getElem t.results i i.isLt = some ⟨r, f⟩ ∧ Table.ringAge (after t c).next_result i =
        Table.ringAge t.next_result i + (takesSlot t c).toNat) ∨
      (∃ x, c = .apply_result x ∧ some (⟨r⟩ : PendingEntry) ∈ t.pending ∧ ResultFor x r ∧
        takesSlot t c = true) ∧ Table.ringAge (after t c).next_result i = 0 := by
  cases c with
  | register q =>
    left
    have hkeep : (after t (.register q)).results = t.results ∧
        (after t (.register q)).next_result = t.next_result := by
      by_cases hforward : (t.register q).2 = .Forward
      · obtain ⟨-, -, slot, -, heq⟩ := register_forward hforward
        rw [after, heq]
        exact ⟨rfl, rfl⟩
      · rw [after, register_keeps hforward]
        exact ⟨rfl, rfl⟩
    rw [hkeep.1] at hcell
    exact ⟨f, hcell, by rw [hkeep.2]; rfl⟩
  | apply_result x =>
    rcases apply_result_cases t x with ⟨heq, hno⟩ | ⟨-, index, q, hpending, hx, hst⟩
    · left
      rw [after, heq] at hcell ⊢
      exact ⟨f, hcell, by rw [takesSlot_false hno]; rfl⟩
    have htakes := takesSlot_true (Table.mem_of_cell hpending) hx
    obtain ⟨-, ⟨slot, old, hold, hid, hres, hnext⟩ | ⟨hnone, hres, hnext⟩⟩ := hst
    · left
      have hfor : ResultFor x old.request := by
        rw [hs.cached_request hpending (Table.mem_of_cell hold) hid]
        exact hx
      have hupdates : takesSlot t (.apply_result x) = false := by
        rw [← Bool.not_eq_true, htakes]
        exact fun hn => hn old (Table.mem_of_cell hold) hfor
      rw [after, hres, Table.cell_set] at hcell
      rw [after, hnext, hupdates]
      split at hcell <;> rename_i hslot
      · subst hslot
        obtain ⟨rfl, rfl⟩ : old.request = r ∧ x = f := by simpa using hcell
        exact ⟨old.result, hold, rfl⟩
      · exact ⟨f, hcell, rfl⟩
    · have htrue : takesSlot t (.apply_result x) = true :=
        htakes.mpr fun c hc hfor => hnone c hc ⟨hfor.1.symm.trans hx.1, hfor.2.symm.trans hx.2⟩
      rw [after, hres, Table.cell_set] at hcell
      rw [after, hnext]
      split at hcell <;> rename_i hslot
      · subst hslot
        obtain ⟨rfl, rfl⟩ : q = r ∧ x = f := by simpa using hcell
        exact .inr ⟨⟨x, rfl, Table.mem_of_cell hpending, hx, htrue⟩, Table.ringAge_filled _⟩
      · exact .inl ⟨f, hcell, by rw [Table.ringAge_next (Ne.symm hslot), htrue]; rfl⟩

theorem slotsTaken_append (t : TransactionTracker) (cs ds : List Call) :
    slotsTaken t (cs ++ ds) = slotsTaken t cs + slotsTaken (exec t cs) ds := by
  induction cs generalizing t with
  | nil => simp [slotsTaken, exec]
  | cons c cs ih => simp [slotsTaken, ih, exec, Nat.add_assoc]

theorem ringAge_counts {calls : List Call} {i : Fin RESULT_CACHE_CAPACITY}
    {r : GenericCommandRequest} {f : CommandResult}
    (hcell : getElem (exec new calls).results i i.isLt = some ⟨r, f⟩) :
    ∃ before x since, TookSlot calls r before x since ∧
      Table.ringAge (exec new calls).next_result i =
        slotsTaken (exec new (before ++ [.apply_result x])) since := by
  induction calls using List.reverseRecOn generalizing f with
  | nil => exact absurd (Table.mem_of_cell hcell) (Table.not_mem_empty _)
  | append_singleton calls c ih =>
    rw [exec_append, exec_singleton] at hcell ⊢
    rcases cell_before (sound_exec sound_new calls) c hcell with
      ⟨f, hbefore, hage⟩ | ⟨⟨x, rfl, hpending, hx, htakes⟩, hage⟩
    · obtain ⟨before, x, since, took, hcount⟩ := ih hbefore
      refine ⟨before, x, since ++ [c], ⟨by simp [took.calls], took.pending, took.answers, took.takes⟩, ?_⟩
      have hsince : exec (exec new (before ++ [.apply_result x])) since = exec new calls := by
        rw [← exec_append, took.calls, List.append_assoc]
        rfl
      rw [hage, hcount, slotsTaken_append, hsince]
      simp [slotsTaken]
    · exact ⟨calls, x, [], ⟨rfl, hpending, hx, htakes⟩, hage⟩

/-- While fewer than 16 cells were filled after its own, a finished request keeps its cell. -/
theorem finished_exec {t : TransactionTracker} {r : GenericCommandRequest} {f : CommandResult}
    {i : Fin RESULT_CACHE_CAPACITY} (h : Finished t r f i) (calls : List Call)
    (hage : Table.ringAge t.next_result i + slotsTaken t calls < RESULT_CACHE_CAPACITY) :
    Finished (exec t calls) r f i ∧ Table.ringAge (exec t calls).next_result i =
      Table.ringAge t.next_result i + slotsTaken t calls := by
  induction calls generalizing t with
  | nil => exact ⟨h, rfl⟩
  | cons c calls ih =>
    simp only [slotsTaken] at hage ⊢
    rcases finished_after h c with ⟨hc, hnext⟩ | ⟨htakes, hi, -⟩
    · obtain ⟨hfin, hr⟩ := ih hc (by omega)
      exact ⟨hfin, by rw [exec, List.foldl_cons, ← exec, hr]; omega⟩
    · rw [htakes, hi, Table.ringAge_self, Bool.toNat_true] at hage
      omega

/-- The final result of a pending request leaves the request finished. -/
theorem finished_final {t : TransactionTracker} (hs : Sound t) {r : GenericCommandRequest}
    {f : CommandResult} (hr : some (⟨r⟩ : PendingEntry) ∈ t.pending) (hf : ResultFor f r)
    (hfin : f.phase.is_final = true) :
    ∃ i, Finished (after t (.apply_result f)) r f i := by
  rcases apply_result_cases t f with ⟨-, hno⟩ | ⟨-, index, q, hcell, hq, hst⟩
  · exact absurd hf (hno _ hr)
  have hqr : (⟨q⟩ : PendingEntry) = ⟨r⟩ :=
    hs.pendingKeyed.unique (Table.mem_of_cell hcell) hr (hq.1.symm.trans hf.1)
  obtain rfl : q = r := by simpa using hqr
  obtain ⟨i, hi⟩ := (Table.mem_iff _ _).mp (new_result_cached hs hcell hst)
  refine ⟨i, sound_after hs _, hi, fun p hp => ?_⟩
  exact ((mem_pending_after hs hcell hst p).mp hp).2 hfin

/-- The first call that brings a growing count to `k`. -/
theorem slotsTaken_reaches {t : TransactionTracker} {calls : List Call} {k : Nat} (hk : 0 < k)
    (h : k ≤ slotsTaken t calls) : ∃ p c s, calls = p ++ c :: s ∧ slotsTaken t p + 1 = k ∧
      takesSlot (exec t p) c = true := by
  induction calls using List.reverseRecOn with
  | nil => simp [slotsTaken] at h; omega
  | append_singleton calls c ih =>
    by_cases hlt : k ≤ slotsTaken t calls
    · obtain ⟨p, d, s, rfl, hp, hd⟩ := ih hlt
      exact ⟨p, d, s ++ [c], by simp, hp, hd⟩
    · rw [slotsTaken_append] at h
      cases hc : takesSlot (exec t calls) c with
      | false => simp [slotsTaken, hc] at h; omega
      | true =>
        simp only [slotsTaken, hc, Bool.toNat_true] at h
        exact ⟨calls, c, [], rfl, by omega, hc⟩

theorem finished_replays_iff {t : TransactionTracker} {r : GenericCommandRequest}
    {f : CommandResult} {i : Fin RESULT_CACHE_CAPACITY} (hi : Finished t r f i)
    (later : List Call) :
    ReplaysInWindow t r f later ↔
      ∀ p s, later = p ++ s → (history t p).countP (FinalElsewhere r.transaction_id) < 16 →
        slotAge t r + slotsTaken t p < RESULT_CACHE_CAPACITY := by
  rw [slotAge_eq_ringAge hi.sound hi.cell]
  constructor
  · intro hrep p s hps hwin
    by_contra hold
    have hlt := Table.ringAge_lt t.next_result i
    -- The call that takes the oldest cell while it is the cell of `r`.
    have hreach : RESULT_CACHE_CAPACITY - Table.ringAge t.next_result i ≤ slotsTaken t p := by omega
    obtain ⟨q, c, s', rfl, hq, hc⟩ := slotsTaken_reaches (by omega) hreach
    obtain ⟨hfq, hrq⟩ := finished_exec hi q (by omega)
    rcases finished_after hfq c with ⟨-, hnext⟩ | ⟨-, -, hgone⟩
    · have hlt' := Table.ringAge_lt (after (exec t q) c).next_result i
      rw [hnext, hrq, hc, Bool.toNat_true] at hlt'
      omega
    · refine hgone ?_
      have hwin' : (history t (q ++ [c])).countP (FinalElsewhere r.transaction_id) < 16 := by
        refine lt_of_le_of_lt ?_ hwin
        rw [show q ++ c :: s' = (q ++ [c]) ++ s' by simp, history_append t (q ++ [c]),
          List.countP_append]
        omega
      simpa using hrep (q ++ [c]) (s' ++ s) (by simp [hps]) hwin'
  · intro hslots p s hps hwin
    exact finished_replays (finished_exec hi p (hslots p s hps hwin)).1

/-- A finished request is replayed through its window exactly if, all through the window, fewer
than 16 cells were filled after its own. These are counted from its first result on. -/
theorem replays_in_window_iff (calls later : List Call) (r : GenericCommandRequest)
    (f : CommandResult) (hr : some (⟨r⟩ : PendingEntry) ∈ (exec new calls).pending)
    (hf : ResultFor f r) (hfin : f.phase.is_final = true) :
    let t := after (exec new calls) (.apply_result f)
    (∃ before x since, TookSlot (calls ++ [.apply_result f]) r before x since ∧
      slotAge t r = slotsTaken (exec new (before ++ [.apply_result x])) since) ∧
      (ReplaysInWindow t r f later ↔
        ∀ p s, later = p ++ s → (history t p).countP (FinalElsewhere r.transaction_id) < 16 →
          slotAge t r + slotsTaken t p < RESULT_CACHE_CAPACITY) := by
  intro t
  obtain ⟨i, hi⟩ := finished_final (sound_exec sound_new calls) hr hf hfin
  refine ⟨?_, finished_replays_iff hi later⟩
  have hexec : exec new (calls ++ [.apply_result f]) = t := by
    rw [exec_append, exec_singleton]
  have hcell : getElem (exec new (calls ++ [.apply_result f])).results i i.isLt = some ⟨r, f⟩ := by
    rw [hexec]
    exact hi.cell
  obtain ⟨before, x, since, took, hcount⟩ := ringAge_counts hcell
  rw [hexec] at hcount
  exact ⟨before, x, since, took, (slotAge_eq_ringAge hi.sound hi.cell).trans hcount⟩

/-! ## An early eviction

Request 1 is accepted, requests 2 to 16 are finished, then request 1 is finished, and one more
request. Nothing but request 17 was finished after request 1.
-/

def request (id : UInt8) : GenericCommandRequest := ⟨id, 2, Vector.replicate 6 0⟩

def result (id : UInt8) (phase : CommandPhase) : CommandResult := ⟨id, 2, phase, .None, 0⟩

def finish (id : UInt8) : List Call :=
  [.register (request id), .apply_result (result id .Completed)]

def beforeFinal : List Call :=
  [.register (request 1), .apply_result (result 1 .Accepted)] ++
    [2, 3, 4, 5, 6, 7, 8, 9, 10, 11, 12, 13, 14, 15, 16].flatMap finish

theorem final_result_evicted_early :
    ¬ ∀ (calls later : List Call) (r : GenericCommandRequest) (f : CommandResult),
      some (⟨r⟩ : PendingEntry) ∈ (exec new calls).pending → ResultFor f r →
      f.phase.is_final = true →
      ReplaysInWindow (after (exec new calls) (.apply_result f)) r f later := by
  intro h
  have hrep := h beforeFinal (finish 17) (request 1) (result 1 .Completed)
    ((Table.mem_entries _ _).mp (by decide +kernel)) (by decide) (by decide)
    (finish 17) [] rfl (by decide +kernel)
  revert hrep
  decide +kernel

theorem replays_in_window_iff_first :
    ReplaysInWindow (after (exec new [.register (request 1)]) (.apply_result (result 1 .Completed)))
        (request 1) (result 1 .Completed) (finish 2) ↔
      ∀ p s, finish 2 = p ++ s →
        (history (after (exec new [.register (request 1)]) (.apply_result (result 1 .Completed)))
          p).countP (FinalElsewhere 1) < 16 →
        slotAge (after (exec new [.register (request 1)]) (.apply_result (result 1 .Completed)))
            (request 1) +
          slotsTaken (after (exec new [.register (request 1)])
            (.apply_result (result 1 .Completed))) p < RESULT_CACHE_CAPACITY :=
  (replays_in_window_iff [.register (request 1)] (finish 2) (request 1) (result 1 .Completed)
    ((Table.mem_entries _ _).mp (by decide +kernel)) (by decide) (by decide)).2

end Comboard.ReplayWindow
