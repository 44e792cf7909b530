import Mathlib.Data.List.Basic

/-!
# Frames in a stream

The frames of a format have one length and start with a head. The greedy scan looks at the window
behind each head: it goes on behind a window that is accepted, and one item further after one that
is not.
-/

namespace Comboard.Lib

structure Format (α ε : Type) where
  head : α → Bool
  length : Nat
  positive : 0 < length
  decode : List α → ε
  accepts : ε → Bool

namespace Format

variable {α ε : Type} (f : Format α ε)

/-- The windows that are looked at: their positions, counted from `i`, and what they give. -/
def scan (i : Nat) : List α → List (Nat × ε)
  | [] => []
  | a :: rest =>
    if f.head a then
      if rest.length + 1 < f.length then []
      else
        let result := f.decode ((a :: rest).take f.length)
        (i, result) ::
          if f.accepts result then scan (i + f.length) (rest.drop (f.length - 1))
          else scan (i + 1) rest
    else scan (i + 1) rest
termination_by l => l.length

/-- What the scan still needs when more items come. -/
def kept : List α → List α
  | [] => []
  | a :: rest =>
    if f.head a then
      if rest.length + 1 < f.length then a :: rest
      else if f.accepts (f.decode ((a :: rest).take f.length)) then
        kept (rest.drop (f.length - 1))
      else kept rest
    else kept rest
termination_by l => l.length

/-- The start of a frame, not yet complete. -/
structure Open (l : List α) : Prop where
  short : l.length < f.length
  head : ∀ a ∈ l.head?, f.head a = true

section Scan

variable {f} {a : α} {rest : List α} (i : Nat)

theorem scan_skip (h : f.head a = false) : f.scan i (a :: rest) = f.scan (i + 1) rest := by
  rw [scan, if_neg (by simp [h])]

theorem scan_short (h : f.head a = true) (hs : rest.length + 1 < f.length) :
    f.scan i (a :: rest) = [] := by
  rw [scan, if_pos h, if_pos hs]

theorem scan_window (h : f.head a = true) (hs : ¬ rest.length + 1 < f.length) :
    f.scan i (a :: rest) =
      (i, f.decode ((a :: rest).take f.length)) ::
        if f.accepts (f.decode ((a :: rest).take f.length)) then
          f.scan (i + f.length) (rest.drop (f.length - 1))
        else f.scan (i + 1) rest := by
  rw [scan, if_pos h, if_neg hs]

theorem kept_skip (h : f.head a = false) : f.kept (a :: rest) = f.kept rest := by
  rw [kept, if_neg (by simp [h])]

theorem kept_short (h : f.head a = true) (hs : rest.length + 1 < f.length) :
    f.kept (a :: rest) = a :: rest := by
  rw [kept, if_pos h, if_pos hs]

theorem kept_window (h : f.head a = true) (hs : ¬ rest.length + 1 < f.length) :
    f.kept (a :: rest) =
      if f.accepts (f.decode ((a :: rest).take f.length)) then f.kept (rest.drop (f.length - 1))
      else f.kept rest := by
  rw [kept, if_pos h, if_neg hs]

end Scan

/-! ## Cutting the stream -/

theorem kept_length_le (l : List α) : (f.kept l).length ≤ l.length := by
  fun_induction f.kept l with
  | case1 => exact Nat.le_refl _
  | case2 a rest hhead hshort => exact Nat.le_refl _
  | case3 a rest hhead hfull hok ih =>
    rw [List.length_drop] at ih
    rw [List.length_cons]
    omega
  | case4 a rest hhead hfull hno ih => rw [List.length_cons]; omega
  | case5 a rest hhead ih => rw [List.length_cons]; omega

theorem open_kept (l : List α) : f.Open (f.kept l) := by
  fun_induction f.kept l with
  | case1 => exact ⟨f.positive, by simp⟩
  | case2 a rest hhead hshort => exact ⟨hshort, by simpa using hhead⟩
  | case3 _ _ _ _ _ ih => exact ih
  | case4 _ _ _ _ _ ih => exact ih
  | case5 _ _ _ ih => exact ih

theorem kept_append (x y : List α) : f.kept (x ++ y) = f.kept (f.kept x ++ y) := by
  fun_induction f.kept x with
  | case1 => rfl
  | case2 a rest hhead hshort => rfl
  | case3 a rest hhead hfull hok ih =>
    rw [List.cons_append, kept_window hhead (by rw [List.length_append]; omega),
      ← List.cons_append, List.take_append_of_le_length (by rw [List.length_cons]; omega), if_pos hok,
      List.drop_append_of_le_length (by omega)]
    exact ih
  | case4 a rest hhead hfull hno ih =>
    rw [List.cons_append, kept_window hhead (by rw [List.length_append]; omega),
      ← List.cons_append, List.take_append_of_le_length (by rw [List.length_cons]; omega), if_neg hno]
    exact ih
  | case5 a rest hhead ih =>
    rw [List.cons_append, kept_skip (by simpa using hhead)]
    exact ih

/-- The scan goes on from what it keeps. -/
theorem scan_append (i : Nat) (x y : List α) :
    f.scan i (x ++ y) =
      f.scan i x ++ f.scan (i + (x.length - (f.kept x).length)) (f.kept x ++ y) := by
  induction x using kept.induct f generalizing i with
  | case1 => simp [scan, kept]
  | case2 a rest hhead hshort =>
    rw [kept_short hhead hshort, scan_short i hhead hshort, Nat.sub_self]
    rfl
  | case3 a rest hhead hfull hok ih =>
    have hkept := f.kept_length_le (rest.drop (f.length - 1))
    rw [List.length_drop] at hkept
    rw [List.cons_append, scan_window i hhead (by rw [List.length_append]; omega),
      ← List.cons_append, List.take_append_of_le_length (by rw [List.length_cons]; omega), if_pos hok,
      List.drop_append_of_le_length (by omega), ih, scan_window i hhead hfull, if_pos hok,
      kept_window hhead hfull, if_pos hok, List.cons_append, List.length_cons, List.length_drop,
      show i + f.length + (rest.length - (f.length - 1) - (f.kept (rest.drop (f.length - 1))).length) =
        i + (rest.length + 1 - (f.kept (rest.drop (f.length - 1))).length) by
        have := f.positive
        omega]
  | case4 a rest hhead hfull hno ih =>
    have hkept := f.kept_length_le rest
    rw [List.cons_append, scan_window i hhead (by rw [List.length_append]; omega),
      ← List.cons_append, List.take_append_of_le_length (by rw [List.length_cons]; omega), if_neg hno,
      ih, scan_window i hhead hfull, if_neg hno, kept_window hhead hfull, if_neg hno, List.cons_append,
      List.length_cons, show i + 1 + (rest.length - (f.kept rest).length) =
        i + (rest.length + 1 - (f.kept rest).length) by omega]
  | case5 a rest hhead ih =>
    have hkept := f.kept_length_le rest
    rw [List.cons_append, scan_skip i (by simpa using hhead), ih, scan_skip i (by simpa using hhead),
      kept_skip (by simpa using hhead), List.length_cons,
      show i + 1 + (rest.length - (f.kept rest).length) =
        i + (rest.length + 1 - (f.kept rest).length) by omega]

/-! ## One item more -/

theorem scan_of_short {l : List α} (i : Nat) (h : l.length < f.length) : f.scan i l = [] := by
  induction l generalizing i with
  | nil => simp [scan]
  | cons a rest ih =>
    rw [List.length_cons] at h
    cases hhead : f.head a with
    | true => exact scan_short i hhead h
    | false => rw [scan_skip i hhead, ih (i + 1) (by omega)]

theorem kept_of_short {l : List α} (h : l.length < f.length) :
    f.kept l = l.dropWhile fun a => !f.head a := by
  induction l with
  | nil => simp [kept]
  | cons a rest ih =>
    rw [List.length_cons] at h
    cases hhead : f.head a with
    | true => rw [kept_short hhead h, List.dropWhile_cons_of_neg (by simp [hhead])]
    | false => rw [kept_skip hhead, List.dropWhile_cons_of_pos (by simp [hhead]), ih (by omega)]

/-- The item that completes the window. -/
theorem Open.complete {f : Format α ε} {l : List α} (h : f.Open l) (hne : l ≠ []) {a : α}
    (hlen : l.length + 1 = f.length) (i : Nat) :
    f.scan i (l ++ [a]) = [(i, f.decode (l ++ [a]))] ∧
      f.kept (l ++ [a]) = if f.accepts (f.decode (l ++ [a])) then []
        else (l.tail ++ [a]).dropWhile fun a => !f.head a := by
  obtain ⟨b, rest, rfl⟩ := List.exists_cons_of_ne_nil hne
  have hhead : f.head b = true := h.head b (by simp)
  rw [List.length_cons] at hlen
  have hrest : (rest ++ [a]).length + 1 = f.length := by simpa using hlen
  have htake : (b :: (rest ++ [a])).take f.length = b :: (rest ++ [a]) :=
    List.take_of_length_le (by rw [List.length_cons]; omega)
  have hdrop : (rest ++ [a]).drop (f.length - 1) = [] := List.drop_eq_nil_of_le (by omega)
  rw [List.cons_append, scan_window i hhead (by omega), kept_window hhead (by omega), htake, hdrop,
    scan_of_short f (i + 1) (by omega), kept_of_short f (l := rest ++ [a]) (by omega)]
  constructor
  · simp [scan]
  · simp [kept]

/-! ## What the scan finds -/

def window (l : List α) (j : Nat) : List α := (l.drop j).take f.length

theorem window_drop (l : List α) (k j : Nat) :
    f.window (l.drop k) j = f.window l (k + j) := by
  rw [window, window, List.drop_drop]

/-- A window that is looked at lies in the stream behind a head. -/
theorem mem_scan {l : List α} {i p : Nat} {r : ε} (h : (p, r) ∈ f.scan i l) :
    ∃ j, p = i + j ∧ j + f.length ≤ l.length ∧ (∀ a ∈ l[j]?, f.head a = true) ∧
      r = f.decode (f.window l j) := by
  have hpos := f.positive
  induction l using kept.induct f generalizing i with
  | case1 => simp [scan] at h
  | case2 a rest hhead hshort => simp [scan_short i hhead hshort] at h
  | case3 a rest hhead hfull hok ih =>
    rw [scan_window i hhead hfull, if_pos hok] at h
    rcases List.mem_cons.mp h with heq | hmem
    · rw [Prod.mk.injEq] at heq
      exact ⟨0, heq.1, by rw [List.length_cons]; omega, by simpa using hhead, heq.2⟩
    · obtain ⟨j, rfl, hj, hjhead, rfl⟩ := ih hmem
      rw [List.length_drop] at hj
      have hdrop : rest.drop (f.length - 1) = (a :: rest).drop f.length := by
        rw [List.drop_cons hpos]
      refine ⟨f.length + j, by omega, by rw [List.length_cons]; omega, ?_, ?_⟩
      · rw [hdrop, List.getElem?_drop] at hjhead
        exact hjhead
      · rw [hdrop, window_drop]
  | case4 a rest hhead hfull hno ih =>
    rw [scan_window i hhead hfull, if_neg hno] at h
    rcases List.mem_cons.mp h with heq | hmem
    · rw [Prod.mk.injEq] at heq
      exact ⟨0, heq.1, by rw [List.length_cons]; omega, by simpa using hhead, heq.2⟩
    · obtain ⟨j, rfl, hj, hjhead, rfl⟩ := ih hmem
      exact ⟨j + 1, by omega, by rw [List.length_cons]; omega, hjhead, rfl⟩
  | case5 a rest hhead ih =>
    rw [scan_skip i (by simpa using hhead)] at h
    obtain ⟨j, rfl, hj, hjhead, rfl⟩ := ih h
    exact ⟨j + 1, by omega, by rw [List.length_cons]; omega, hjhead, rfl⟩

/-- The second window starts later, and behind the first one if that was accepted. -/
def Later (w w' : Nat × ε) : Prop :=
  w.1 < w'.1 ∧ (f.accepts w.2 = true → w.1 + f.length ≤ w'.1)

theorem scan_later (i : Nat) (l : List α) : (f.scan i l).Pairwise f.Later := by
  have hpos := f.positive
  induction l using kept.induct f generalizing i with
  | case1 => simp [scan]
  | case2 a rest hhead hshort => simp [scan_short i hhead hshort]
  | case3 a rest hhead hfull hok ih =>
    rw [scan_window i hhead hfull, if_pos hok, List.pairwise_cons]
    refine ⟨?_, ih (i + f.length)⟩
    rintro ⟨p, r⟩ hmem
    obtain ⟨j, rfl, -⟩ := f.mem_scan hmem
    exact ⟨by dsimp only; omega, fun _ => by dsimp only; omega⟩
  | case4 a rest hhead hfull hno ih =>
    rw [scan_window i hhead hfull, if_neg hno, List.pairwise_cons]
    refine ⟨?_, ih (i + 1)⟩
    rintro ⟨p, r⟩ hmem
    obtain ⟨j, rfl, -⟩ := f.mem_scan hmem
    exact ⟨by dsimp only; omega, fun hok => absurd hok hno⟩
  | case5 a rest hhead ih =>
    rw [scan_skip i (by simpa using hhead)]
    exact ih (i + 1)

/-- A frame that is accepted, and does not start inside an earlier one, is found. -/
theorem scan_finds {l : List α} {i j : Nat} (hj : j + f.length ≤ l.length)
    (hhead : ∀ a ∈ l[j]?, f.head a = true) (hok : f.accepts (f.decode (f.window l j)) = true)
    (hclear : ∀ k r, (i + k, r) ∈ f.scan i l → f.accepts r = true → ¬ (k < j ∧ j < k + f.length)) :
    (i + j, f.decode (f.window l j)) ∈ f.scan i l := by
  have hpos := f.positive
  induction l using kept.induct f generalizing i j with
  | case1 => simp at hj; omega
  | case2 a rest hhead' hshort => rw [List.length_cons] at hj; omega
  | case3 a rest hhead' hfull hok' ih =>
    rw [scan_window i hhead' hfull, if_pos hok'] at hclear ⊢
    by_cases hj0 : j = 0
    · subst hj0
      exact List.mem_cons_self
    · -- The frame starts behind the accepted one.
      have hbehind : f.length ≤ j := by
        have := hclear 0 _ List.mem_cons_self hok'
        omega
      obtain ⟨k, rfl⟩ := Nat.exists_eq_add_of_le hbehind
      have hdrop : rest.drop (f.length - 1) = (a :: rest).drop f.length := by
        rw [List.drop_cons hpos]
      have hmem := ih (i := i + f.length) (j := k)
        (by rw [hdrop, List.length_drop]; omega)
        (by rw [hdrop, List.getElem?_drop]; exact hhead)
        (by rw [hdrop, window_drop]; exact hok)
        (fun m r hm haccepts => by
          rw [Nat.add_assoc] at hm
          have := hclear (f.length + m) r (List.mem_cons_of_mem _ hm) haccepts
          omega)
      rw [hdrop, window_drop, Nat.add_assoc] at hmem
      rw [hdrop]
      exact List.mem_cons_of_mem _ hmem
  | case4 a rest hhead' hfull hno ih =>
    rw [scan_window i hhead' hfull, if_neg hno] at hclear ⊢
    cases j with
    | zero => exact List.mem_cons_self
    | succ j =>
      rw [List.length_cons] at hj
      have hmem := ih (i := i + 1) (j := j) (by omega) hhead hok fun m r hm haccepts => by
        rw [Nat.add_assoc, Nat.add_comm 1] at hm
        have := hclear (m + 1) r (List.mem_cons_of_mem _ hm) haccepts
        omega
      rw [Nat.add_assoc, Nat.add_comm 1] at hmem
      exact List.mem_cons_of_mem _ hmem
  | case5 a rest hhead' ih =>
    rw [scan_skip i (by simpa using hhead')] at hclear ⊢
    cases j with
    | zero => exact absurd (hhead a (by simp)) hhead'
    | succ j =>
      rw [List.length_cons] at hj
      have hmem := ih (i := i + 1) (j := j) (by omega) hhead hok fun m r hm haccepts => by
        rw [Nat.add_assoc, Nat.add_comm 1] at hm
        have := hclear (m + 1) r hm haccepts
        omega
      rw [Nat.add_assoc, Nat.add_comm 1] at hmem
      exact hmem

/-- No window is looked at twice. -/
theorem scan_once (i : Nat) (l : List α) : ((f.scan i l).map (·.1)).Nodup :=
  List.pairwise_map.mpr ((f.scan_later i l).imp fun h => Nat.ne_of_lt h.1)

end Format

end Comboard.Lib
