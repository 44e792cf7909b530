import Mathlib.Data.List.Basic

/-!
# Bounded channels

A queue that never holds more than its capacity. The oldest item is received first.
-/

namespace Comboard.Lib

structure Channel (α : Type) (capacity : Nat) where
  items : List α
  fits : items.length ≤ capacity

namespace Channel

variable {α : Type} {n : Nat}

@[ext]
theorem ext {c d : Channel α n} (h : c.items = d.items) : c = d := by
  cases c; cases d; simpa using h

instance [DecidableEq α] : DecidableEq (Channel α n) := fun c d =>
  decidable_of_iff (c.items = d.items) ⟨ext, congrArg items⟩

def empty : Channel α n := ⟨[], Nat.zero_le n⟩

def is_full (c : Channel α n) : Bool := n ≤ c.items.length

def is_empty (c : Channel α n) : Bool := c.items.isEmpty

/-- `none` when there is no room. -/
def try_send (c : Channel α n) (a : α) : Option (Channel α n) :=
  if h : c.items.length < n then some ⟨c.items ++ [a], by rw [List.length_append]; exact h⟩ else none

/-- `none` when there is nothing to receive. -/
def try_receive (c : Channel α n) : Option (α × Channel α n) :=
  match h : c.items with
  | [] => none
  | a :: rest => some (a, ⟨rest, by have := c.fits; simp [h] at this; omega⟩)

/-- Sends if there is room, and tells if there was. -/
def offer (c : Channel α n) (a : α) : Channel α n × Bool :=
  match c.try_send a with
  | some c => (c, true)
  | none => (c, false)

/-! ## Sending and receiving -/

@[simp]
theorem items_empty : (empty : Channel α n).items = [] := rfl

theorem try_send_eq_none {c : Channel α n} {a : α} : c.try_send a = none ↔ c.is_full = true := by
  simp [try_send, is_full]

theorem try_send_some {c d : Channel α n} {a : α} (h : c.try_send a = some d) :
    d.items = c.items ++ [a] := by
  unfold try_send at h
  split at h
  · rw [Option.some.injEq] at h
    rw [← h]
  · simp at h

theorem mem_of_send {c d : Channel α n} {a b : α} (h : c.try_send a = some d)
    (hb : b ∈ d.items) : b ∈ c.items ∨ b = a := by
  rw [try_send_some h] at hb
  exact (List.mem_append.mp hb).imp_right List.mem_singleton.mp

theorem eq_of_send {c d : Channel α n} {a b : α} (h : c.try_send a = some d)
    (hb : d.items = c.items ++ [b]) : a = b := by
  rw [try_send_some h] at hb
  exact List.singleton_inj.mp (List.append_cancel_left hb)

theorem try_receive_eq_none {c : Channel α n} : c.try_receive = none ↔ c.items = [] := by
  unfold try_receive
  split <;> rename_i h <;> simp [h]

theorem try_receive_some {c d : Channel α n} {a : α} (h : c.try_receive = some (a, d)) :
    c.items = a :: d.items := by
  unfold try_receive at h
  split at h
  · simp at h
  · rw [Option.some.injEq, Prod.mk.injEq] at h
    obtain ⟨rfl, rfl⟩ := h
    assumption

theorem try_send_room {c : Channel α n} (a : α) (h : c.is_full = false) :
    ∃ d, c.try_send a = some d ∧ d.items = c.items ++ [a] := by
  cases hsend : c.try_send a with
  | none => simp [try_send_eq_none.mp hsend] at h
  | some d => exact ⟨d, rfl, try_send_some hsend⟩

/-- A full channel gives its oldest item, and has room then. -/
theorem try_receive_full {c : Channel α n} (hn : 0 < n) (h : c.is_full = true) :
    ∃ a d, c.try_receive = some (a, d) ∧ c.items = a :: d.items ∧ d.is_full = false := by
  cases hreceive : c.try_receive with
  | none => simp [is_full, try_receive_eq_none.mp hreceive] at h; omega
  | some received =>
    obtain ⟨a, d⟩ := received
    have hitems := try_receive_some hreceive
    have hfits := c.fits
    rw [hitems, List.length_cons] at hfits
    exact ⟨a, d, rfl, hitems, by simp [is_full]; omega⟩

theorem offer_items (c : Channel α n) (a : α) :
    (c.offer a).1.items = if (c.offer a).2 then c.items ++ [a] else c.items := by
  unfold offer
  split <;> rename_i h
  · simpa using try_send_some h
  · rfl

theorem mem_offer {c : Channel α n} {a b : α} (h : b ∈ (c.offer a).1.items) : b ∈ c.items ∨ b = a := by
  rw [offer_items] at h
  split at h
  · exact (List.mem_append.mp h).imp_right List.mem_singleton.mp
  · exact .inl h

theorem mem_of_receive {c d : Channel α n} {a b : α} (h : c.try_receive = some (a, d))
    (hb : b = a ∨ b ∈ d.items) : b ∈ c.items := by
  rw [try_receive_some h]
  exact List.mem_cons.mpr hb

theorem offer_sent (c : Channel α n) (a : α) : (c.offer a).2 = !c.is_full := by
  unfold offer
  split <;> rename_i h
  · have : ¬ c.is_full = true := fun hf => by simp [try_send_eq_none.mpr hf] at h
    simpa using this
  · simpa using try_send_eq_none.mp h

/-- Only the last place makes a channel full. -/
theorem full_of_offer {c : Channel α n} {a : α} (h : (c.offer a).1.is_full = true) :
    c.is_full = true ∨ c.items.length + 1 = n := by
  have hfits := (c.offer a).1.fits
  simp only [is_full, decide_eq_true_eq] at h ⊢
  rw [offer_items] at h hfits
  split at h <;> simp_all
  omega

theorem offer_full {c : Channel α n} {a : α} (h : c.is_full = true) : (c.offer a).1 = c := by
  rw [offer, try_send_eq_none.mpr h]

end Channel

end Comboard.Lib
