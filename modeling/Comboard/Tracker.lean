import Comboard.Code.Command
import Mathlib.Data.List.Induction

/-!
# The transaction tracker over whole runs

A run is any list of calls on a fresh tracker. The history records each call
with its answer, and the two tables are described from the history alone.
-/

namespace Comboard.Tracker

open Lib TransactionTracker

inductive Call where
  | register (request : GenericCommandRequest)
  | apply_result (result : CommandResult)
  deriving DecidableEq

inductive Event where
  | registered (request : GenericCommandRequest) (answer : RegisterResult)
  | applied (result : CommandResult) (accepted : Bool)
  deriving DecidableEq

def after (t : TransactionTracker) : Call → TransactionTracker
  | .register r => (t.register r).1
  | .apply_result x => (t.apply_result x).1

def event (t : TransactionTracker) : Call → Event
  | .register r => .registered r (t.register r).2
  | .apply_result x => .applied x (t.apply_result x).2

def exec (t : TransactionTracker) (calls : List Call) : TransactionTracker := calls.foldl after t

def history (t : TransactionTracker) : List Call → List Event
  | [] => []
  | c :: calls => event t c :: history (after t c) calls

/-! ## What the history says -/

/-- `x` answers `r`: the same id and the same command. -/
def ResultFor (x : CommandResult) (r : GenericCommandRequest) : Prop :=
  x.transaction_id = r.transaction_id ∧ x.command = r.command

/-- `r` was forwarded, and no final result was accepted for it since. -/
def Outstanding (h : List Event) (r : GenericCommandRequest) : Prop :=
  ∃ before since, h = before ++ .registered r .Forward :: since ∧
    ∀ x, .applied x true ∈ since → ResultFor x r → x.phase.is_final = false

/-- `since` is what happened after the last request with the id of `r` was forwarded: `r` itself. -/
def LastForward (h : List Event) (r : GenericCommandRequest) (since : List Event) : Prop :=
  (∃ before, h = before ++ .registered r .Forward :: since) ∧
    ∀ r', .registered r' .Forward ∈ since → r'.transaction_id ≠ r.transaction_id

/-- `x` is the newest result accepted for `r`, the last request forwarded with its id. -/
def NewestResult (h : List Event) (r : GenericCommandRequest) (x : CommandResult) : Prop :=
  ∃ since earlier later, LastForward h r since ∧ since = earlier ++ .applied x true :: later ∧
    ResultFor x r ∧ ∀ y, .applied y true ∈ later → ¬ ResultFor y r

/-! ## One call -/

theorem register_forward {t : TransactionTracker} {r : GenericCommandRequest}
    (h : (t.register r).2 = .Forward) :
    (∀ p, some p ∈ t.pending → p.request.transaction_id ≠ r.transaction_id) ∧
      (∀ c, some c ∈ t.results → c.request.transaction_id ≠ r.transaction_id) ∧
      ∃ slot : Fin MAX_PENDING_TRANSACTIONS, getElem t.pending slot slot.isLt = none ∧
        (t.register r).1 = { t with pending := t.pending.set slot (some ⟨r⟩) slot.isLt } := by
  unfold register at h ⊢
  split at h <;> rename_i hp
  · split at h
    · split at h <;> simp at h
    · simp at h
  · split at h <;> rename_i hc
    · split at h <;> simp at h
    · split at h <;> rename_i hv
      · simp at h
      · refine ⟨?_, ?_, _, Table.vacant_some hv, rfl⟩
        · simpa using hp
        · simpa using hc

theorem register_keeps {t : TransactionTracker} {r : GenericCommandRequest}
    (h : (t.register r).2 ≠ .Forward) : (t.register r).1 = t := by
  unfold register at h ⊢
  split
  · split
    · split <;> rfl
    · rfl
  · split
    · rfl
    · split <;> simp_all

theorem register_replay {t : TransactionTracker} {r : GenericCommandRequest} {x : CommandResult}
    (h : (t.register r).2 = .Replay x) : some (⟨r, x⟩ : CachedEntry) ∈ t.results := by
  have key : ∀ {p : CachedEntry → Bool} {c : CachedEntry}, t.results.entries.find? p = some c →
      c.request = r → c.result = x → some (⟨r, x⟩ : CachedEntry) ∈ t.results := by
    rintro p ⟨_, _⟩ hc rfl rfl
    simpa using List.mem_of_find?_eq_some hc
  unfold register at h
  split at h
  · split at h
    · split at h <;> rename_i hc
      · simp at h
      · exact key hc (by simpa using List.find?_some hc) (by simpa using h)
    · simp at h
  · split at h <;> rename_i hc
    · split at h <;> rename_i hr
      · exact key hc hr (by simpa using h)
      · simp at h
    · split at h <;> simp at h

/-- `apply_result` on a tracker that holds the pending request `r` in cell `index`. -/
def Stores (t t' : TransactionTracker) (index : Fin MAX_PENDING_TRANSACTIONS)
    (r : GenericCommandRequest) (x : CommandResult) : Prop :=
  t'.pending = (if x.phase.is_final then t.pending.set index none index.isLt else t.pending) ∧
    ((∃ (slot : Fin RESULT_CACHE_CAPACITY) (c : CachedEntry),
        getElem t.results slot slot.isLt = some c ∧
        c.request.transaction_id = r.transaction_id ∧
        t'.results = t.results.set slot (some { c with result := x }) slot.isLt ∧
        t'.next_result = t.next_result) ∨
      ((∀ c, some c ∈ t.results → ¬ (c.request.transaction_id = r.transaction_id ∧
          c.request.command = r.command)) ∧
        t'.results = t.results.set t.next_result (some ⟨r, x⟩) t.next_result_lt ∧
        t'.next_result = Table.ringNext t.next_result))

theorem apply_result_cases (t : TransactionTracker) (x : CommandResult) :
    (t.apply_result x = (t, false) ∧ ∀ p, some p ∈ t.pending → ¬ ResultFor x p.request) ∨
      ((t.apply_result x).2 = true ∧
        ∃ (index : Fin MAX_PENDING_TRANSACTIONS) (r : GenericCommandRequest),
          getElem t.pending index index.isLt = some ⟨r⟩ ∧ ResultFor x r ∧
            Stores t (t.apply_result x).1 index r x) := by
  unfold apply_result
  split <;> rename_i hp
  · left
    refine ⟨rfl, fun p hmem hx => ?_⟩
    have := Table.locate_none.mp hp p hmem
    simp [hx.1, hx.2] at this
  · rename_i index r
    right
    obtain ⟨hcell, hid⟩ := Table.locate_some hp
    simp only [decide_eq_true_eq] at hid
    refine ⟨rfl, index, r, hcell, ⟨hid.1.symm, hid.2.symm⟩, ?_⟩
    split <;> rename_i hc
    · obtain ⟨hslot, hkey⟩ := Table.locate_some hc
      simp only [decide_eq_true_eq] at hkey
      refine ⟨by split <;> rfl, Or.inl ⟨_, _, hslot, hkey.1, ?_, ?_⟩⟩ <;> split <;> rfl
    · refine ⟨by split <;> rfl, Or.inr ⟨fun c hmem => ?_, ?_, ?_⟩⟩
      · simpa using Table.locate_none.mp hc c hmem
      · split <;> rfl
      · split <;> rfl

/-! ## The tables stay sound -/

/-- What the two tables owe each other, whatever the history was. -/
structure Sound (t : TransactionTracker) : Prop where
  pendingKeyed : Table.Keyed (·.request.transaction_id) t.pending
  cachedKeyed : Table.Keyed (·.request.transaction_id) t.results
  sameRequest : ∀ p c, some p ∈ t.pending → some c ∈ t.results →
    p.request.transaction_id = c.request.transaction_id → p.request = c.request
  unfinished : ∀ p c, some p ∈ t.pending → some c ∈ t.results →
    p.request.transaction_id = c.request.transaction_id → c.result.phase.is_final = false

theorem sound_new : Sound new where
  pendingKeyed := Table.Keyed.empty
  cachedKeyed := Table.Keyed.empty
  sameRequest := by intro p c hp; simp [new] at hp
  unfinished := by intro p c hp; simp [new] at hp

theorem sound_register {t : TransactionTracker} (hs : Sound t) (r : GenericCommandRequest) :
    Sound (t.register r).1 := by
  by_cases h : (t.register r).2 = .Forward
  · obtain ⟨hp, hc, slot, hfree, heq⟩ := register_forward h
    rw [heq]
    refine ⟨hs.pendingKeyed.set fun j b _ hb => hp b (Table.mem_of_cell hb), hs.cachedKeyed, ?_, ?_⟩
    · intro p c hmem hcm hid
      rcases (Table.mem_set_free hfree).mp hmem with rfl | hmem
      · exact absurd hid.symm (hc c hcm)
      · exact hs.sameRequest p c hmem hcm hid
    · intro p c hmem hcm hid
      rcases (Table.mem_set_free hfree).mp hmem with rfl | hmem
      · exact absurd hid.symm (hc c hcm)
      · exact hs.unfinished p c hmem hcm hid
  · rwa [register_keeps h]

section Stores

variable {t t' : TransactionTracker} {index : Fin MAX_PENDING_TRANSACTIONS}
  {r : GenericCommandRequest} {x : CommandResult}

/-- A cached entry with the id of a pending request is an entry of that request. -/
theorem Sound.cached_request (hs : Sound t)
    (hcell : getElem t.pending index index.isLt = some ⟨r⟩) {c : CachedEntry}
    (hc : some c ∈ t.results) (hid : c.request.transaction_id = r.transaction_id) : c.request = r :=
  (hs.sameRequest ⟨r⟩ c (Table.mem_of_cell hcell) hc hid.symm).symm

theorem mem_pending_after (hs : Sound t) (hcell : getElem t.pending index index.isLt = some ⟨r⟩)
    (h : Stores t t' index r x) (p : PendingEntry) :
    some p ∈ t'.pending ↔ some p ∈ t.pending ∧
      (x.phase.is_final = true → p.request.transaction_id ≠ r.transaction_id) := by
  rw [h.1]
  split <;> rename_i hf
  · rw [hs.pendingKeyed.mem_clear hcell]
    simp [hf]
  · simp [hf]

/-- After an accepted result the cache holds that result, and of the rest nothing with its id. -/
theorem mem_results_after (hs : Sound t) (hcell : getElem t.pending index index.isLt = some ⟨r⟩)
    (h : Stores t t' index r x) {c : CachedEntry} (hc : some c ∈ t'.results) :
    c = ⟨r, x⟩ ∨ some c ∈ t.results ∧ c.request.transaction_id ≠ r.transaction_id := by
  obtain ⟨-, ⟨slot, old, hold, hid, hres, -⟩ | ⟨hnone, hres, -⟩⟩ := h
  · rw [hres, Table.mem_set, Option.some.injEq] at hc
    have hreq : old.request = r := hs.cached_request hcell (Table.mem_of_cell hold) hid
    rcases hc with rfl | ⟨j, hj, hcj⟩
    · exact Or.inl (by rw [hreq])
    · refine Or.inr ⟨Table.mem_of_cell hcj, fun he => hj ?_⟩
      exact hs.cachedKeyed j slot c old hcj hold (he.trans hid.symm)
  · rw [hres, Table.mem_set, Option.some.injEq] at hc
    rcases hc with rfl | ⟨j, -, hcj⟩
    · exact Or.inl rfl
    · have hmem := Table.mem_of_cell hcj
      refine Or.inr ⟨hmem, fun he => hnone c hmem ?_⟩
      rw [hs.cached_request hcell hmem he]
      exact ⟨rfl, rfl⟩

theorem new_result_cached (hs : Sound t) (hcell : getElem t.pending index index.isLt = some ⟨r⟩)
    (h : Stores t t' index r x) : some (⟨r, x⟩ : CachedEntry) ∈ t'.results := by
  obtain ⟨-, ⟨slot, old, hold, hid, hres, -⟩ | ⟨-, hres, -⟩⟩ := h
  · have hreq : old.request = r := hs.cached_request hcell (Table.mem_of_cell hold) hid
    rw [hres, Table.mem_set, hreq]
    exact Or.inl rfl
  · rw [hres, Table.mem_set]
    exact Or.inl rfl

theorem sound_stores (hs : Sound t) (hcell : getElem t.pending index index.isLt = some ⟨r⟩)
    (h : Stores t t' index r x) : Sound t' := by
  refine ⟨?_, ?_, ?_, ?_⟩
  · rw [h.1]
    split
    · exact hs.pendingKeyed.clear index
    · exact hs.pendingKeyed
  · obtain ⟨-, ⟨slot, old, hold, hid, hres, -⟩ | ⟨hnone, hres, -⟩⟩ := h
    · rw [hres]
      refine hs.cachedKeyed.set fun j b hj hb he => hj ?_
      exact hs.cachedKeyed j slot b old hb hold he
    · rw [hres]
      refine hs.cachedKeyed.set fun j b _ hb he => hnone b (Table.mem_of_cell hb) ?_
      rw [hs.cached_request hcell (Table.mem_of_cell hb) he]
      exact ⟨rfl, rfl⟩
  · intro p c hp hc hid
    have hp' := ((mem_pending_after hs hcell h p).mp hp).1
    rcases mem_results_after hs hcell h hc with rfl | ⟨hc', -⟩
    · exact congrArg (·.request) (hs.pendingKeyed.unique hp' (Table.mem_of_cell hcell) hid)
    · exact hs.sameRequest p c hp' hc' hid
  · intro p c hp hc hid
    obtain ⟨hp', hlive⟩ := (mem_pending_after hs hcell h p).mp hp
    rcases mem_results_after hs hcell h hc with rfl | ⟨hc', -⟩
    · simpa using fun hf => hlive hf hid
    · exact hs.unfinished p c hp' hc' hid

end Stores

theorem sound_after {t : TransactionTracker} (hs : Sound t) (c : Call) : Sound (after t c) := by
  cases c with
  | register r => exact sound_register hs r
  | apply_result x =>
    rcases apply_result_cases t x with ⟨heq, -⟩ | ⟨-, index, r, hcell, -, hstores⟩
    · rw [after, heq]; exact hs
    · exact sound_stores hs hcell hstores

theorem sound_exec {t : TransactionTracker} (hs : Sound t) (calls : List Call) :
    Sound (exec t calls) := by
  induction calls generalizing t with
  | nil => exact hs
  | cons c calls ih => exact ih (sound_after hs c)

/-! ## The tables and the history -/

@[simp]
theorem exec_append (t : TransactionTracker) (cs ds : List Call) :
    exec t (cs ++ ds) = exec (exec t cs) ds := List.foldl_append ..

@[simp]
theorem exec_singleton (t : TransactionTracker) (c : Call) : exec t [c] = after t c := rfl

theorem history_append (t : TransactionTracker) (cs ds : List Call) :
    history t (cs ++ ds) = history t cs ++ history (exec t cs) ds := by
  induction cs generalizing t with
  | nil => rfl
  | cons c cs ih => simp [history, ih, exec]

theorem outstanding_snoc (h : List Event) (e : Event) (r : GenericCommandRequest) :
    Outstanding (h ++ [e]) r ↔ e = .registered r .Forward ∨
      Outstanding h r ∧ ∀ x, e = .applied x true → ResultFor x r → x.phase.is_final = false := by
  constructor
  · rintro ⟨before, since, heq, hq⟩
    rcases List.eq_nil_or_concat since with rfl | ⟨since, e', rfl⟩
    · exact Or.inl (by simpa using (List.append_inj' heq rfl).2)
    · simp only [List.concat_eq_append, ← List.cons_append, ← List.append_assoc] at heq hq
      obtain ⟨rfl, he⟩ := List.append_inj' heq rfl
      obtain rfl : e = e' := by simpa using he
      refine Or.inr ⟨⟨before, since, rfl, fun x hx => hq x (by simp [hx])⟩, ?_⟩
      exact fun x hx => hq x (by simp [hx])
  · rintro (rfl | ⟨⟨before, since, rfl, hq⟩, he⟩)
    · exact ⟨h, [], rfl, by simp⟩
    · refine ⟨before, since ++ [e], by simp, fun x hx => ?_⟩
      rcases List.mem_append.mp hx with hx | hx
      · exact hq x hx
      · exact he x (List.mem_singleton.mp hx).symm

theorem LastForward.snoc {h since : List Event} {r : GenericCommandRequest} {e : Event}
    (hl : LastForward h r since)
    (he : ∀ r', e = .registered r' .Forward → r'.transaction_id ≠ r.transaction_id) :
    LastForward (h ++ [e]) r (since ++ [e]) := by
  obtain ⟨⟨before, rfl⟩, hno⟩ := hl
  refine ⟨⟨before, by simp⟩, fun r' hr' => ?_⟩
  rcases List.mem_append.mp hr' with hr' | hr'
  · exact hno r' hr'
  · exact he r' (List.mem_singleton.mp hr').symm

theorem NewestResult.snoc {h : List Event} {r : GenericCommandRequest} {x : CommandResult} {e : Event}
    (hn : NewestResult h r x)
    (he : ∀ r', e = .registered r' .Forward → r'.transaction_id ≠ r.transaction_id)
    (hx : ∀ y, e = .applied y true → ¬ ResultFor y r) : NewestResult (h ++ [e]) r x := by
  obtain ⟨since, earlier, later, hl, rfl, hfor, hlast⟩ := hn
  refine ⟨_, earlier, later ++ [e], hl.snoc he, by simp, hfor, fun y hy => ?_⟩
  rcases List.mem_append.mp hy with hy | hy
  · exact hlast y hy
  · exact hx y (List.mem_singleton.mp hy).symm

theorem LastForward.newest {h since : List Event} {r : GenericCommandRequest} {x : CommandResult}
    (hl : LastForward h r since) (hx : ResultFor x r) :
    NewestResult (h ++ [.applied x true]) r x :=
  ⟨_, since, [], hl.snoc (by simp), rfl, hx, by simp⟩

/-- The tables hold what the history says they hold. -/
structure Follows (t : TransactionTracker) (h : List Event) : Prop where
  sound : Sound t
  outstanding : ∀ r, some (⟨r⟩ : PendingEntry) ∈ t.pending ↔ Outstanding h r
  forwarded : ∀ p, some p ∈ t.pending → ∃ since, LastForward h p.request since
  newest : ∀ c, some c ∈ t.results → NewestResult h c.request c.result

theorem follows_new : Follows new [] where
  sound := sound_new
  outstanding := by intro r; simp [new, Outstanding]
  forwarded := by intro p hp; simp [new] at hp
  newest := by intro c hc; simp [new] at hc

/-- A call that forwards nothing and accepts nothing. -/
theorem Follows.quiet {t : TransactionTracker} {h : List Event} (hf : Follows t h) {e : Event}
    (hreg : ∀ r, e ≠ .registered r .Forward) (happ : ∀ x, e ≠ .applied x true) :
    Follows t (h ++ [e]) where
  sound := hf.sound
  outstanding := by
    intro r
    rw [outstanding_snoc, hf.outstanding]
    simp [hreg r, happ]
  forwarded := by
    intro p hp
    obtain ⟨since, hl⟩ := hf.forwarded p hp
    exact ⟨_, hl.snoc fun r' h' => absurd h' (hreg r')⟩
  newest := by
    intro c hc
    exact (hf.newest c hc).snoc (fun r' h' => absurd h' (hreg r')) (fun y h' => absurd h' (happ y))

theorem follows_register {t : TransactionTracker} {h : List Event} (hf : Follows t h)
    (r : GenericCommandRequest) :
    Follows (t.register r).1 (h ++ [.registered r (t.register r).2]) := by
  by_cases hfwd : (t.register r).2 = .Forward
  swap
  · rw [register_keeps hfwd]
    exact hf.quiet (by simp [hfwd]) (by simp)
  obtain ⟨hp, hc, slot, hfree, heq⟩ := register_forward hfwd
  have hsound := sound_register hf.sound r
  rw [heq] at hsound ⊢
  rw [hfwd]
  refine ⟨hsound, ?_, ?_, ?_⟩
  · intro r'
    rw [outstanding_snoc, ← hf.outstanding, Table.mem_set_free hfree]
    simp [@eq_comm _ r' r]
  · intro p hmem
    rcases (Table.mem_set_free hfree).mp hmem with rfl | hmem
    · exact ⟨[], ⟨h, rfl⟩, by simp⟩
    · obtain ⟨since, hl⟩ := hf.forwarded p hmem
      refine ⟨_, hl.snoc fun r' h' => ?_⟩
      simp only [Event.registered.injEq, and_true] at h'
      exact h' ▸ (hp p hmem).symm
  · intro c hmem
    refine (hf.newest c hmem).snoc (fun r' h' => ?_) (by simp)
    simp only [Event.registered.injEq, and_true] at h'
    exact h' ▸ (hc c hmem).symm

theorem follows_apply_result {t : TransactionTracker} {h : List Event} (hf : Follows t h)
    (x : CommandResult) :
    Follows (t.apply_result x).1 (h ++ [.applied x (t.apply_result x).2]) := by
  rcases apply_result_cases t x with ⟨heq, -⟩ | ⟨hok, index, r, hcell, hx, hst⟩
  · rw [heq]
    exact hf.quiet (by simp) (by simp)
  have hs := hf.sound
  -- Only `r` is pending with the id of `x`, so a pending request `x` answers is `r`.
  have honly : ∀ r', some (⟨r'⟩ : PendingEntry) ∈ t.pending →
      (ResultFor x r' ↔ r'.transaction_id = r.transaction_id) := by
    intro r' hr'
    constructor
    · exact fun hx' => hx'.1.symm.trans hx.1
    · intro hid
      obtain rfl : r' = r := by
        simpa using hs.pendingKeyed.unique hr' (Table.mem_of_cell hcell) hid
      exact hx
  rw [hok]
  refine ⟨sound_stores hs hcell hst, ?_, ?_, ?_⟩
  · intro r'
    rw [outstanding_snoc, ← hf.outstanding, mem_pending_after hs hcell hst]
    simp only [reduceCtorEq, false_or, Event.applied.injEq, and_true, forall_eq']
    refine and_congr_right fun hr' => ?_
    rw [honly r' hr', ← Bool.not_eq_true]
    tauto
  · intro p hp
    obtain ⟨since, hl⟩ := hf.forwarded p ((mem_pending_after hs hcell hst p).mp hp).1
    exact ⟨_, hl.snoc (by simp)⟩
  · intro c hc
    rcases mem_results_after hs hcell hst hc with rfl | ⟨hc, hid⟩
    · obtain ⟨since, hl⟩ := hf.forwarded ⟨r⟩ (Table.mem_of_cell hcell)
      exact hl.newest hx
    · refine (hf.newest c hc).snoc (by simp) ?_
      rintro y hy hfor
      simp only [Event.applied.injEq, and_true] at hy
      exact hid (hfor.1.symm.trans (hy ▸ hx.1))

theorem follows_after {t : TransactionTracker} {h : List Event} (hf : Follows t h) (c : Call) :
    Follows (after t c) (h ++ [event t c]) := by
  cases c with
  | register r => exact follows_register hf r
  | apply_result x => exact follows_apply_result hf x

theorem follows_exec (calls : List Call) : Follows (exec new calls) (history new calls) := by
  induction calls using List.reverseRecOn with
  | nil => exact follows_new
  | append_singleton calls c ih =>
    rw [exec_append, history_append]
    exact follows_after ih c

/-! ## A final result stays -/

/-- One call leaves a cached final result alone, or drops it from the cache. -/
theorem final_after {t : TransactionTracker} (hs : Sound t) {c : CachedEntry}
    (hc : some c ∈ t.results) (hfin : c.result.phase.is_final = true) (call : Call) :
    some c ∈ (after t call).results ∨
      ∀ c', some c' ∈ (after t call).results → c'.request.transaction_id ≠ c.request.transaction_id := by
  by_cases hmem : some c ∈ (after t call).results
  · exact Or.inl hmem
  right
  intro c' hc' hid
  refine hmem ?_
  suffices hold : some c' ∈ t.results by
    rwa [← hs.cachedKeyed.unique hold hc hid]
  cases call with
  | register r =>
    by_cases hf : (t.register r).2 = .Forward
    · obtain ⟨-, -, slot, -, heq⟩ := register_forward hf
      simpa [after, heq] using hc'
    · simpa [after, register_keeps hf] using hc'
  | apply_result x =>
    rcases apply_result_cases t x with ⟨heq, -⟩ | ⟨-, index, r, hcell, -, hst⟩
    · simpa [after, heq] using hc'
    · rcases mem_results_after hs hcell hst hc' with rfl | ⟨hold, -⟩
      · -- The request of a final result is not pending any more.
        have := hs.unfinished ⟨r⟩ c (Table.mem_of_cell hcell) hc hid
        simp [hfin] at this
      · exact hold

theorem final_stays {t : TransactionTracker} (hs : Sound t) {c : CachedEntry}
    (hc : some c ∈ t.results) (hfin : c.result.phase.is_final = true) (later : List Call) :
    some c ∈ (exec t later).results ∨ ∃ earlier rest, later = earlier ++ rest ∧
      ∀ c', some c' ∈ (exec t earlier).results →
        c'.request.transaction_id ≠ c.request.transaction_id := by
  induction later generalizing t with
  | nil => exact Or.inl hc
  | cons call later ih =>
    rcases final_after hs hc hfin call with hkeep | hgone
    · rcases ih (sound_after hs call) hkeep with hend | ⟨earlier, rest, rfl, hgone⟩
      · exact Or.inl hend
      · exact Or.inr ⟨call :: earlier, rest, rfl, hgone⟩
    · exact Or.inr ⟨[call], later, rfl, hgone⟩

/-- The tracker's tables are what its history makes them, and each answer agrees with it. -/
theorem tracker_follows_history (calls : List Call) :
    let t := exec new calls
    let h := history new calls
    ((∀ r, some (⟨r⟩ : PendingEntry) ∈ t.pending ↔ Outstanding h r) ∧
        (t.pending.entries.map (·.request.transaction_id)).Nodup ∧
        t.pending_count ≤ MAX_PENDING_TRANSACTIONS) ∧
      ((t.results.entries.map (·.request.transaction_id)).Nodup ∧
        ∀ p c, some p ∈ t.pending → some c ∈ t.results →
          p.request.transaction_id = c.request.transaction_id → p.request = c.request) ∧
      (∀ r, (t.register r).2 = .Forward →
        (∀ p, some p ∈ t.pending → p.request.transaction_id ≠ r.transaction_id) ∧
          ∀ c, some c ∈ t.results → c.request.transaction_id ≠ r.transaction_id) ∧
      (∀ r x, (t.register r).2 = .Replay x → NewestResult h r x) ∧
      (∀ c, some c ∈ t.results → c.result.phase.is_final = true → ∀ later,
        some c ∈ (exec t later).results ∨ ∃ earlier rest, later = earlier ++ rest ∧
          ∀ c', some c' ∈ (exec t earlier).results →
            c'.request.transaction_id ≠ c.request.transaction_id) ∧
      (∀ x, (t.apply_result x).2 = false → (t.apply_result x).1 = t) ∧
      ∀ r, (t.register r).2 ≠ .Forward → (t.register r).1 = t := by
  intro t h
  have hf : Follows t h := follows_exec calls
  have hs := hf.sound
  refine ⟨⟨hf.outstanding, hs.pendingKeyed.nodup, Table.entries_length_le _⟩,
    ⟨hs.cachedKeyed.nodup, hs.sameRequest⟩, ?_, ?_, ?_, ?_, fun r => register_keeps⟩
  · intro r hr
    obtain ⟨hp, hc, -⟩ := register_forward hr
    exact ⟨hp, hc⟩
  · intro r x hx
    exact hf.newest _ (register_replay hx)
  · exact fun c hc hfin later => final_stays hs hc hfin later
  · intro x hx
    rcases apply_result_cases t x with ⟨heq, -⟩ | ⟨hok, -⟩
    · rw [heq]
    · simp [hok] at hx

end Comboard.Tracker
