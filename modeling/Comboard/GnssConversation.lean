import Comboard.Acknowledgement
import Comboard.Code.GnssConversation
import Mathlib.Data.List.Forall2

/-!
# The conversation with the receiver

A command goes out whole, and the one behind it only after the first answer to it was positive.
-/

namespace Comboard.GnssConversation

open Lib GnssSetting Acknowledgement

/-! ## What was said -/

def sent : SettingReport → List UInt8
  | .uart bytes => bytes
  | .read _ => []

def heard : SettingReport → Option (List UInt8)
  | .uart _ => none
  | .read bytes => some bytes

/-- What the first answer to the command says that `AckParser` reports. -/
def answer (command bytes : List UInt8) : Option AckOutcome :=
  earliest (command.getD 2 0) (command.getD 3 0) [] bytes

/-- The answer is complete with the last of these reads. -/
structure Answered (outcome : AckOutcome) (command : List UInt8) (reads : List (List UInt8)) : Prop where
  answer : answer command reads.flatten = some outcome
  first : GnssConversation.answer command reads.dropLast.flatten = none

/-- How it ends at a command: what of it was written, and what was read since. Behind the last command
nothing is read. -/
inductive Ends (index : Fin INIT_COMMANDS.length) :
    List UInt8 → List (List UInt8) → Except GnssSettingError GnssSettingReport → Prop
  | ok (hlast : index.val + 1 = INIT_COMMANDS.length) :
    Ends index (INIT_COMMANDS.get index) [] (.ok ⟨.ofNat index, true⟩)
  | no_progress {part : List UInt8} (hpart : part <+: INIT_COMMANDS.get index)
      (hrest : part ≠ INIT_COMMANDS.get index) : Ends index part [] (.error .NoWriteProgress)
  | transmit {part : List UInt8} (hpart : part <+: INIT_COMMANDS.get index) :
    Ends index part [] (.error .Transmit)
  | receive {reads : List (List UInt8)} (hlast : index.val + 1 < INIT_COMMANDS.length)
      (hnone : answer (INIT_COMMANDS.get index) reads.flatten = none) :
    Ends index (INIT_COMMANDS.get index) reads (.error .Receive)
  | timeout {reads : List (List UInt8)} (hlast : index.val + 1 < INIT_COMMANDS.length)
      (hnone : answer (INIT_COMMANDS.get index) reads.flatten = none) :
    Ends index (INIT_COMMANDS.get index) reads
      (.error (.AckTimeout ((INIT_COMMANDS.get index).getD 2 0) ((INIT_COMMANDS.get index).getD 3 0)))
  | negative {reads : List (List UInt8)} (hlast : index.val + 1 < INIT_COMMANDS.length)
      (hnak : Answered .Nak (INIT_COMMANDS.get index) reads) :
    Ends index (INIT_COMMANDS.get index) reads
      (.error (.NegativeAck ((INIT_COMMANDS.get index).getD 2 0) ((INIT_COMMANDS.get index).getD 3 0)))

/-- The parser that has read these bytes of an answer that is not complete. -/
structure Awaits (command bytes : List UInt8) (parser : AckParser) : Prop where
  parser : parser = (parse (command.getD 2 0) (command.getD 3 0) bytes).1
  reported : reported (command.getD 2 0) (command.getD 3 0) bytes = none
  none_yet : answer command bytes = none

theorem awaits_nil (command : List UInt8) : Awaits command [] .new := ⟨rfl, rfl, rfl⟩

/-- One read, as the parser sees it. -/
theorem Awaits.read {command bytes letters : List UInt8} {parser parser' : AckParser}
    {outcome : Option AckOutcome} (awaits : Awaits command bytes parser)
    (h : parser.push_read (command.getD 2 0) (command.getD 3 0) letters = (parser', outcome)) :
    answer command (bytes ++ letters) = outcome ∧
      (outcome = none → Awaits command (bytes ++ letters) parser') := by
  obtain ⟨rfl, hreported, hnone⟩ := awaits
  have hanswer : answer command (bytes ++ letters) =
      earliest (command.getD 2 0) (command.getD 3 0) bytes letters := by
    unfold answer at hnone ⊢
    rw [earliest_append, hnone, Option.none_or, List.nil_append]
  rcases push_read_cases letters hreported with ⟨p, o, hread, hearliest⟩ | ⟨hread, hnow, hearliest⟩
  · obtain ⟨rfl, rfl⟩ := Prod.mk.inj (hread.symm.trans h)
    exact ⟨hanswer.trans hearliest, fun hout => by simp at hout⟩
  · have hparse := hread.symm.trans h
    have hout : outcome = none := by
      rw [← hnow]
      exact (congrArg Prod.snd hparse).symm
    exact ⟨hanswer.trans (hearliest.trans hout.symm), fun _ =>
      ⟨(congrArg Prod.fst hparse).symm, hnow, hanswer.trans hearliest⟩⟩

/-! ## Where it stands -/

inductive Stands (index : Fin INIT_COMMANDS.length) :
    List UInt8 → List (List UInt8) → SettingPoint → Prop
  | write {part data : List UInt8} (hcommand : part ++ data = INIT_COMMANDS.get index)
      (hrest : data ≠ []) : Stands index part [] (.Write data)
  | flush : Stands index (INIT_COMMANDS.get index) [] .Flush
  | wait {reads : List (List UInt8)} {parser : AckParser}
      (hlast : index.val + 1 < INIT_COMMANDS.length)
      (awaits : Awaits (INIT_COMMANDS.get index) reads.flatten parser) :
    Stands index (INIT_COMMANDS.get index) reads (.Wait parser)
  | returned {part : List UInt8} {reads : List (List UInt8)}
      {result : Except GnssSettingError GnssSettingReport} (ends : Ends index part reads result) :
    Stands index part reads (.Returned result)

theorem Ends.of_command {index : Fin INIT_COMMANDS.length} {part : List UInt8} {reads : List (List UInt8)}
    {result : Except GnssSettingError GnssSettingReport} (ends : Ends index part reads result) :
    part <+: INIT_COMMANDS.get index := by
  cases ends with
  | no_progress hpart => exact hpart
  | transmit hpart => exact hpart
  | _ => exact List.prefix_rfl

theorem Stands.of_command {index : Fin INIT_COMMANDS.length} {part : List UInt8} {reads : List (List UInt8)}
    {point : SettingPoint} (stands : Stands index part reads point) :
    part <+: INIT_COMMANDS.get index := by
  cases stands with
  | write hcommand => exact ⟨_, hcommand⟩
  | returned ends => exact ends.of_command
  | _ => exact List.prefix_rfl

/-- `answers` are the reads of the commands that were acknowledged. -/
structure Account (past : List SettingReport) (w : GnssSetting) (answers : List (List (List UInt8)))
    (part : List UInt8) (reads : List (List UInt8)) : Prop where
  uart : past.flatMap sent = (INIT_COMMANDS.take w.index).flatten ++ part
  read : past.filterMap heard = answers.flatten ++ reads
  answered : List.Forall₂ (Answered .Ack) (INIT_COMMANDS.take w.index) answers
  counted : w.acknowledged_commands = .ofNat w.index
  stands : Stands w.index part reads w.point

section Steps

variable {past new : List SettingReport} {w w' : GnssSetting} {answers : List (List (List UInt8))}
  {part : List UInt8} {reads : List (List UInt8)}

/-- The command stays the same. -/
theorem Account.goes_on {point : SettingPoint} (account : Account past w answers part reads)
    (stands : Stands w.index (part ++ new.flatMap sent) (reads ++ new.filterMap heard) point) :
    Account (past ++ new) { w with point } answers (part ++ new.flatMap sent)
      (reads ++ new.filterMap heard) where
  uart := by rw [List.flatMap_append, account.uart, List.append_assoc]
  read := by rw [List.filterMap_append, account.read, List.append_assoc]
  answered := account.answered
  counted := account.counted
  stands := stands

theorem Account.goes_on_quietly {point : SettingPoint} (account : Account past w answers part reads)
    (stands : Stands w.index part reads point) :
    Account (past ++ []) { w with point } answers part reads := by
  rw [List.append_nil]
  exact ⟨account.uart, account.read, account.answered, account.counted, stands⟩

theorem command_ne_nil : ∀ index, INIT_COMMANDS.get index ≠ [] := by decide

theorem count_next : ∀ index : Fin INIT_COMMANDS.length,
    (if UInt8.ofNat index = 255 then 255 else UInt8.ofNat index + 1) = UInt8.ofNat (index + 1) := by
  decide

theorem account_start (h : machine.start w) : Account [] w [] [] [] := by
  subst h
  exact ⟨rfl, rfl, .nil, rfl, .write rfl (command_ne_nil _)⟩

theorem account_write {data : List UInt8} {written : Nat} (account : Account past w answers part reads)
    (hpoint : w.point = .Write data) (h : w.write data written = some (w', new)) :
    ∃ part reads, Account (past ++ new) w' answers part reads := by
  have stands := account.stands
  rw [hpoint] at stands
  obtain ⟨hcommand, hrest⟩ := stands
  unfold GnssSetting.write at h
  split at h
  · obtain ⟨rfl, rfl⟩ := Prod.mk.inj (Option.some.inj h)
    refine ⟨_, _, account.goes_on_quietly (.returned (.no_progress ⟨_, hcommand⟩ fun hpart => hrest ?_))⟩
    rw [← hcommand] at hpart
    exact List.self_eq_append_right.mp hpart
  · simp only [Option.ite_none_right_eq_some, Option.some.injEq, Prod.mk.injEq] at h
    obtain ⟨-, rfl, rfl⟩ := h
    have hcommand' : part ++ data.take written ++ data.drop written = INIT_COMMANDS.get w.index := by
      rw [List.append_assoc, List.take_append_drop, hcommand]
    refine ⟨_, _, account.goes_on ?_⟩
    simp only [List.flatMap_cons, List.flatMap_nil, sent, List.append_nil, List.filterMap_cons,
      List.filterMap_nil, heard]
    split
    · rename_i hempty
      rw [List.isEmpty_iff.mp hempty, List.append_nil] at hcommand'
      exact hcommand' ▸ .flush
    · rename_i hempty
      exact .write hcommand' fun hnil => hempty (List.isEmpty_iff.mpr hnil)

theorem account_flushed (account : Account past w answers part reads) (hpoint : w.point = .Flush) :
    Account (past ++ []) w.flushed answers part reads := by
  have stands := account.stands
  rw [hpoint] at stands
  cases stands
  unfold GnssSetting.flushed
  split
  · rename_i hlast
    rw [account.counted]
    exact account.goes_on_quietly (.returned (.ok hlast))
  · rename_i hlast
    exact account.goes_on_quietly (.wait (by omega) (awaits_nil _))

theorem take_next (index : Fin INIT_COMMANDS.length) :
    INIT_COMMANDS.take (index + 1) = INIT_COMMANDS.take index ++ [INIT_COMMANDS.get index] :=
  List.take_succ_eq_append_getElem index.isLt

/-- The acknowledged command is over. -/
theorem next_account (huart : past.flatMap sent =
      (INIT_COMMANDS.take w.index).flatten ++ INIT_COMMANDS.get w.index)
    (hread : past.filterMap heard = answers.flatten ++ reads)
    (hanswered : List.Forall₂ (Answered .Ack) (INIT_COMMANDS.take w.index) answers)
    (hcounted : w.acknowledged_commands = .ofNat w.index)
    (hack : Answered .Ack (INIT_COMMANDS.get w.index) reads)
    (hlast : w.index.val + 1 < INIT_COMMANDS.length) :
    Account past w.next (answers ++ [reads]) [] [] := by
  unfold GnssSetting.next
  rw [dif_pos hlast]
  refine ⟨?_, ?_, ?_, ?_, .write rfl (command_ne_nil _)⟩
  · simp only [take_next, List.flatten_append, List.flatten_singleton, List.append_nil]
    exact huart
  · simpa using hread
  · simp only [take_next]
    exact List.rel_append hanswered (.cons hack .nil)
  · simp only [hcounted]
    exact count_next w.index

theorem account_read {bytes : List UInt8} {parser : AckParser}
    (account : Account past w answers part reads) (hpoint : w.point = .Wait parser) :
    ∃ answers part reads, Account (past ++ [.read bytes]) (w.answered parser bytes) answers part reads := by
  have stands := account.stands
  rw [hpoint] at stands
  obtain _ | _ | ⟨hlast, awaits⟩ := stands
  have hflatten : (reads ++ [bytes]).flatten = reads.flatten ++ bytes := by simp
  have hanswered {outcome : AckOutcome}
      (h : answer (INIT_COMMANDS.get w.index) (reads.flatten ++ bytes) = some outcome) :
      Answered outcome (INIT_COMMANDS.get w.index) (reads ++ [bytes]) :=
    ⟨by rw [hflatten, h], by rw [List.dropLast_concat, awaits.none_yet]⟩
  have huart : (past ++ [SettingReport.read bytes]).flatMap sent =
      (INIT_COMMANDS.take w.index).flatten ++ INIT_COMMANDS.get w.index := by
    rw [List.flatMap_append, account.uart]
    simp [sent]
  have hread : (past ++ [SettingReport.read bytes]).filterMap heard =
      answers.flatten ++ (reads ++ [bytes]) := by
    rw [List.filterMap_append, account.read, List.append_assoc]
    rfl
  unfold GnssSetting.answered
  split
  · rename_i hpush
    obtain ⟨-, hawaits⟩ := awaits.read hpush
    exact ⟨_, _, _, huart, hread, account.answered, account.counted,
      .wait hlast (hflatten ▸ hawaits rfl)⟩
  · rename_i hpush
    exact ⟨_, _, _, next_account huart hread account.answered account.counted
      (hanswered (awaits.read hpush).1) hlast⟩
  · rename_i hpush
    exact ⟨_, _, _, huart, hread, account.answered, account.counted,
      .returned (.negative hlast (hanswered (awaits.read hpush).1))⟩

theorem account_step {a : GnssSetting.Action} (account : Account past w answers part reads)
    (h : machine.step w a = some (w', new)) :
    ∃ answers part reads, Account (past ++ new) w' answers part reads := by
  have stands := account.stands
  unfold machine GnssSetting.step at h
  dsimp only at h
  split at h
  · rename_i hpoint
    exact ⟨_, account_write account hpoint h⟩
  · rename_i hpoint
    obtain ⟨rfl, rfl⟩ := Prod.mk.inj (Option.some.inj h)
    rw [hpoint] at stands
    obtain ⟨hcommand, -⟩ := stands
    exact ⟨_, _, _, account.goes_on_quietly (.returned (.transmit ⟨_, hcommand⟩))⟩
  · rename_i hpoint
    obtain ⟨rfl, rfl⟩ := Prod.mk.inj (Option.some.inj h)
    split
    · exact ⟨_, _, _, account_flushed account hpoint⟩
    · rw [hpoint] at stands
      cases stands
      exact ⟨_, _, _, account.goes_on_quietly (.returned (.transmit List.prefix_rfl))⟩
  · rename_i hpoint
    simp only [Option.ite_none_right_eq_some, Option.some.injEq, Prod.mk.injEq] at h
    obtain ⟨-, rfl, rfl⟩ := h
    exact account_read account hpoint
  · rename_i hpoint
    obtain ⟨rfl, rfl⟩ := Prod.mk.inj (Option.some.inj h)
    rw [hpoint] at stands
    obtain _ | _ | ⟨hlast, awaits⟩ := stands
    exact ⟨_, _, _, account.goes_on_quietly (.returned (.receive hlast awaits.none_yet))⟩
  · rename_i hpoint
    obtain ⟨rfl, rfl⟩ := Prod.mk.inj (Option.some.inj h)
    rw [hpoint] at stands
    obtain _ | _ | ⟨hlast, awaits⟩ := stands
    exact ⟨_, _, _, account.goes_on_quietly (.returned (.timeout hlast awaits.none_yet))⟩
  · simp at h

theorem account_run (run : Machine.Run machine Machine.anyStep past w) :
    ∃ answers part reads, Account past w answers part reads := by
  refine run.invariant (I := fun past w => ∃ answers part reads, Account past w answers part reads)
    (fun w h => ⟨_, _, _, account_start h⟩) fun past w a w' new _ account _ h => ?_
  obtain ⟨answers, part, reads, account⟩ := account
  exact account_step account h

end Steps

/-- The commands go out in their order. All in front of the current one were written whole, and the first
answer to each among what was read behind it was positive. `Ends` says how it ends; with a report it
does when all commands were written. -/
theorem setting_of_conversation {past : List SettingReport} {w : GnssSetting}
    (run : Machine.Run machine Machine.anyStep past w) :
    ∃ answers part reads,
      past.flatMap sent = (INIT_COMMANDS.take w.index).flatten ++ part ∧
        part <+: INIT_COMMANDS.get w.index ∧
        past.filterMap heard = answers.flatten ++ reads ∧
        List.Forall₂ (Answered .Ack) (INIT_COMMANDS.take w.index) answers ∧
        (∀ result, w.point = .Returned result → Ends w.index part reads result) ∧
        (∀ report, w.point = .Returned (.ok report) →
          past.flatMap sent = INIT_COMMANDS.flatten ∧ report = ⟨8, true⟩) := by
  obtain ⟨answers, part, reads, account⟩ := account_run run
  have hends (result : Except GnssSettingError GnssSettingReport) (hpoint : w.point = .Returned result) :
      Ends w.index part reads result := by
    have stands := account.stands
    rw [hpoint] at stands
    cases stands with
    | returned ends => exact ends
  refine ⟨answers, part, reads, account.uart, account.stands.of_command, account.read, account.answered,
    hends, fun report hpoint => ?_⟩
  have ends := hends _ hpoint
  generalize hresult : Except.ok report = result at ends
  cases ends with
  | ok hlast =>
    have hindex : w.index.val = 8 := Nat.succ.inj hlast
    refine ⟨?_, ?_⟩
    · rw [account.uart, ← List.flatten_concat, ← take_next, hlast, List.take_length]
    · rw [Except.ok.inj hresult, hindex]
      rfl
  | _ => simp at hresult

/-- A receiver that acknowledges every command. The first one is written in two parts and its
acknowledgement comes in two reads, behind a letter of a sentence. -/
def cooperative : List GnssSetting.Action :=
  [.write 4, .write 12, .flush true, .read [0x24, 0xB5, 0x62, 0x05],
    .read ((frame 0x01 0x06 0x01).drop 3)] ++
    (INIT_COMMANDS.tail.flatMap fun command =>
      [.write command.length, .flush true, .read (frame 0x01 (command.getD 2 0) (command.getD 3 0))]).dropLast

def returned (w : GnssSetting) : Option GnssSettingReport :=
  match w.point with
  | .Returned (.ok report) => some report
  | _ => none

theorem setting_of_conversation_cooperative : ∃ (past : List SettingReport) (w : GnssSetting),
    w.point = .Returned (.ok ⟨8, true⟩) ∧ past.flatMap sent = INIT_COMMANDS.flatten := by
  obtain ⟨past, w, run, hreturned⟩ : ∃ past w, Machine.Run machine Machine.anyStep past w ∧
      returned w = some ⟨8, true⟩ :=
    Machine.exists_run (fun w _ => returned w = some ⟨8, true⟩) cooperative rfl (fun _ _ _ => trivial)
      (by decide +kernel)
  have hpoint : w.point = .Returned (.ok ⟨8, true⟩) := by
    unfold returned at hreturned
    split at hreturned
    · rename_i hpoint
      rw [hpoint, Option.some.inj hreturned]
    · simp at hreturned
  obtain ⟨-, -, -, -, -, -, -, -, hwhole⟩ := setting_of_conversation run
  exact ⟨past, w, hpoint, (hwhole _ hpoint).1⟩

end Comboard.GnssConversation
