import Abacus.Proofs.Grammar
import Abacus.Proofs.Session.Transcript
import Abacus.Proofs.Text.Ascii
import Abacus.Proofs.Text.WellFormed

/-!
# Damaged lines

A line that a calculator obeys or computes is ASCII but for its blanks (`Entry.isAscii_of_read`). A
line that is not UTF-8 is decoded with a replacement character, which is neither, so it is refused:
`Entry.read_of_replacement`. In a session such a line is answered by an error and followed by the
next prompt, and it leaves the ledger as it was (`run_cons_of_refused`). `run_damaged` says so of
every place that the line can have in a session; the lines before it are passed by
`exists_run_append`, by induction.
-/

namespace Abacus

/-! ## ASCII -/

theorem Sign.isAscii_text (sign : Sign) : IsAscii sign.text := by
  cases sign with
  | absent => exact List.forall_mem_nil _
  | plus => exact List.forall_mem_singleton.2 (by decide)
  | minus => exact List.forall_mem_singleton.2 (by decide)

theorem WrittenExponent.isAscii_text (e : WrittenExponent) : IsAscii e.text := by
  have hmark : e.mark.toNat < 0x80 := by
    rcases e.isMark with h | h
    · rw [h]
      decide
    · rw [h]
      decide
  exact List.forall_mem_cons.2
    ⟨hmark, isAscii_append e.sign.isAscii_text (isAscii_of_isDigit e.isDigit)⟩

namespace Written

/-- A decimal is written in ASCII. -/
theorem isAscii_text (w : Written) : IsAscii w.text := by
  obtain ⟨hwhole, hfraction⟩ := List.forall_mem_append.1 (isAscii_of_isDigit w.isDigit)
  have hpoint : IsAscii (w.fraction.elim [] ('.' :: ·)) := by
    cases hw : w.fraction with
    | none => exact List.forall_mem_nil _
    | some fraction =>
      rw [hw] at hfraction
      exact List.forall_mem_cons.2 ⟨by decide, hfraction⟩
  have htail : IsAscii w.tail := by
    rw [tail]
    cases w.exponent with
    | none => exact List.forall_mem_nil _
    | some e => exact e.isAscii_text
  exact isAscii_append w.sign.isAscii_text
    (isAscii_append hwhole (isAscii_append hpoint htail))

end Written

/-! ## Lines that are obeyed or computed -/

/-- Every character of a text is a blank or in one of its words. -/
theorem Spaced.isBlank_or_mem {text : Text} {ws : List Text} (h : Spaced text ws) {c : Char}
    (hc : c ∈ text) : isBlank c = true ∨ ∃ word ∈ ws, c ∈ word := by
  induction h with
  | blanks hgap => exact .inl (hgap c hc)
  | @word gap word rest ws hgap _ _ _ ih =>
    rcases List.mem_append.1 hc with hc | hc
    · exact .inl (hgap c hc)
    rcases List.mem_append.1 hc with hc | hc
    · exact .inr ⟨word, List.mem_cons_self, hc⟩
    rcases ih hc with hblank | ⟨other, hmem, hc⟩
    · exact .inl hblank
    · exact .inr ⟨other, List.mem_cons_of_mem word hmem, hc⟩

/-- Keywords and the words of an expression are ASCII. -/
theorem Says.isAscii {ws : List Text} {entry : Entry} (h : Says ws (.ok entry)) :
    ∀ word ∈ ws, IsAscii word := by
  cases h with
  | keyword k =>
    have hall : k.text.all (·.toNat < 0x80) = true := by
      cases k with
      | history => decide
      | exit => decide
    exact List.forall_mem_singleton.2 fun c hc => of_decide_eq_true (List.all_eq_true.1 hall c hc)
  | @expression left right e hleft hright =>
    obtain ⟨v, rfl, -⟩ := hleft
    obtain ⟨w, rfl, -⟩ := hright
    have hsymbol : IsAscii [e.operator.symbol] := by
      refine List.forall_mem_singleton.2 ?_
      cases e.operator <;> decide
    simp only [List.mem_cons, List.not_mem_nil, or_false]
    rintro word (rfl | rfl | rfl)
    · exact v.isAscii_text
    · exact hsymbol
    · exact w.isAscii_text

namespace Entry

/-- A line that is obeyed or computed is ASCII but for its blanks. -/
theorem isAscii_of_read {line : Text} {entry : Entry} (h : read line = .ok entry) :
    ∀ c ∈ line, isBlank c = true ∨ c.toNat < 0x80 := by
  intro c hc
  rcases (spaced_words line).isBlank_or_mem hc with hblank | ⟨word, hword, hc⟩
  · exact .inl hblank
  · exact .inr (((read_eq_iff (spaced_words line)).1 h).isAscii word hword c hc)

/-- A line with a replacement character is refused for what it says, and not for its arithmetic. -/
theorem read_of_replacement {line : Text} (h : Utf8.replacement ∈ line) :
    ∃ error, read line = .error error ∧ error ≠ .divisionByZero := by
  cases hread : read line with
  | ok entry =>
    exact absurd (isAscii_of_read hread Utf8.replacement h) (by decide)
  | error error =>
    refine ⟨error, rfl, ?_⟩
    rintro rfl
    exact read_ne_divisionByZero line hread

end Entry

namespace Calculator

theorem evaluate_of_refused {line : Text} {error : EvalError} (h : Entry.read line = .error error)
    (calculator : Calculator) :
    calculator.evaluate line = ⟨.error error, calculator, refusalEvents line error⟩ := by
  rw [evaluate, h]

end Calculator

namespace Session

/-! ## Refused lines in a session -/

/-- The acts of the turn of a refused line: it is logged, and replied to by the error. -/
def refusalActs (line : Bytes) (error : EvalError) : List Act :=
  (Calculator.refusalEvents (Utf8.decodeLossy line) error).map .log ++
    [.log (.lineRefused error), .print (errorReply error)]

section Refused

variable {line : Bytes} {error : EvalError}
  (h : Entry.read (Utf8.decodeLossy line) = .error error)

include h

theorem turn_of_refused (calculator : Calculator) :
    turn calculator line = ⟨refusalActs line error, calculator, true⟩ := by
  simp only [turn, Calculator.evaluate_of_refused h, reply, refusalActs]

/-- A session goes on behind a refused line with the ledger that it had. -/
theorem run_cons_of_refused (last : List Act) (calculator : Calculator) (lines : List Bytes) :
    run last calculator (line :: lines) =
      ⟨.print prompt :: .read line :: refusalActs line error ++ (run last calculator lines).acts,
        (run last calculator lines).ledger⟩ := by
  rw [run, turn_of_refused h]
  rfl

end Refused

/-- A session goes on with a prompt. -/
theorem exists_run_eq_prompt (last : List Act) (calculator : Calculator) (lines : List Bytes) :
    ∃ acts, (run last calculator lines).acts = .print prompt :: acts := by
  cases lines with
  | nil => exact ⟨_, rfl⟩
  | cons line lines =>
    rw [run]
    split
    · exact ⟨_, rfl⟩
    · exact ⟨_, rfl⟩

theorem goesOn_turn (calculator : Calculator) {line : Bytes} (h : isKeyword .exit line = false) :
    (turn calculator line).goesOn = true := by
  obtain ⟨acts, hreply, -⟩ := exists_reply calculator h
  simp only [turn, hreply]

/-- Lines without an `exit` are run first, and leave a calculator to the lines behind them. -/
theorem exists_run_append {before : List Bytes} (h : exits before = false)
    (calculator : Calculator) :
    ∃ front calculator', ∀ last rest, run last calculator (before ++ rest) =
      ⟨front ++ (run last calculator' rest).acts, (run last calculator' rest).ledger⟩ := by
  induction before generalizing calculator with
  | nil => exact ⟨[], calculator, fun _ _ => rfl⟩
  | cons line before ih =>
    rw [exits, List.any_cons, Bool.or_eq_false_iff] at h
    obtain ⟨front, calculator', hrun⟩ := ih h.2 (turn calculator line).calculator
    refine ⟨.print prompt :: .read line :: (turn calculator line).acts ++ front, calculator',
      fun last rest => ?_⟩
    rw [List.cons_append, run, if_pos (goesOn_turn calculator h.1), hrun, List.append_assoc]

/-! ## Damaged lines -/

/-- A line that is not UTF-8
1. is refused for its form, its numbers or its operator, in the same way by every calculator, and
   leaves it as it was;
2. wherever it is among the lines that a session hears before an `exit`, is replied to by the error,
   behind which the session prompts again; and what the session records is what it would record
   without the line. -/
theorem run_damaged {line : Bytes} (h : ¬Utf8.IsText line) :
    ∃ error : EvalError,
      ((∃ count, error = .invalidFormat count) ∨ (∃ operands, error = .invalidNumber operands) ∨
        ∃ op, error = .invalidOperator op) ∧
      (∀ calculator : Calculator,
        (calculator.evaluate (Utf8.decodeLossy line)).outcome = .error error ∧
          (calculator.evaluate (Utf8.decodeLossy line)).calculator = calculator) ∧
      ∀ (input : Bytes) (ending : Ending) (before after : List Bytes),
        heard input ending = before ++ line :: after → exits before = false →
          ∃ front back, (script input ending).acts =
              front ++ (.print prompt :: .read line :: refusalActs line error ++
                .print prompt :: back) ∧
            (script input ending).ledger =
              (run (closing (lost input ending) ending) .new (before ++ after)).ledger := by
  obtain ⟨error, hread, hne⟩ := Entry.read_of_replacement (Utf8.replacement_mem_decodeLossy h)
  refine ⟨error, ?_, fun calculator => ?_, fun input ending before after hheard hexits => ?_⟩
  · cases error with
    | invalidFormat count => exact .inl ⟨count, rfl⟩
    | invalidNumber operands => exact .inr (.inl ⟨operands, rfl⟩)
    | invalidOperator op => exact .inr (.inr ⟨op, rfl⟩)
    | divisionByZero => exact absurd rfl hne
  · rw [Calculator.evaluate_of_refused hread]
    exact ⟨rfl, rfl⟩
  · obtain ⟨front, calculator, hrun⟩ := exists_run_append hexits .new
    obtain ⟨back, hback⟩ :=
      exists_run_eq_prompt (closing (lost input ending) ending) calculator after
    refine ⟨front, back, ?_, ?_⟩
    · rw [script, hheard, hrun, run_cons_of_refused hread, hback]
    · rw [script, hheard, hrun, hrun, run_cons_of_refused hread]

/-- A character that is broken off stands where an operator should be. -/
theorem run_damaged_operator :
    let line : Bytes := [0x32, 0x20, 0xF0, 0x9F, 0x20, 0x33, 0x0A]
    let input := Utf8.encode "1 + 2\n".toList ++ line ++ Utf8.encode "history\nexit".toList
    let error : EvalError := .invalidOperator ['\uFFFD']
    ¬Utf8.IsText line ∧
      (∀ calculator : Calculator,
        (calculator.evaluate (Utf8.decodeLossy line)).outcome = .error error) ∧
      ∃ front back, (script input .finished).acts =
        front ++ (.print prompt :: .read line :: refusalActs line error ++
          .print prompt :: back) := by
  intro line input error
  have hdamaged : ¬Utf8.IsText line := by decide +kernel
  have hheard : heard input .finished =
      [Utf8.encode "1 + 2\n".toList] ++
        line :: ["history\n", "exit"].map fun text => Utf8.encode text.toList := by
    decide +kernel
  have hread : Entry.read (Utf8.decodeLossy line) = .error error := by decide +kernel
  obtain ⟨error', -, hevaluate, hsession⟩ := run_damaged hdamaged
  obtain rfl : error' = error := by
    have houtcome := (hevaluate .new).1
    rw [Calculator.evaluate_of_refused hread] at houtcome
    exact (Except.error.inj houtcome).symm
  obtain ⟨front, back, hacts, -⟩ := hsession input .finished _ _ hheard (by decide +kernel)
  exact ⟨hdamaged, fun calculator => (hevaluate calculator).1, front, back, hacts⟩

end Session

end Abacus
