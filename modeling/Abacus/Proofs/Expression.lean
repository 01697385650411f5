import Abacus.Proofs.Calculator
import Abacus.Proofs.Decimal.Layout
import Abacus.Proofs.Text.Spaced

/-!
# Written expressions

An expression is written as two numbers with a symbol between them and a blank on either side of
it. Numbers are words under every layout (`Layout.isWord_print`), so a written expression has three
words, also where its numbers are negative, and it says the expression that it was written for
(`Entry.read_written`). `Entry.read_print`: displaying undoes reading.
-/

namespace Abacus

/-! ## Printed numbers as words -/

namespace Layout

theorem isBlank_of_isNumberChar {c : Char} (h : isNumberChar c = true) : isBlank c = false := by
  rw [isNumberChar, Bool.or_eq_true, Char.isDigit, Bool.and_eq_true, decide_eq_true_eq,
    decide_eq_true_eq] at h
  rcases h with ⟨hzero, hnine⟩ | h
  · have hlow : 48 ≤ c.toNat := hzero
    have hhigh : c.toNat ≤ 57 := hnine
    simp only [isBlank, Bool.or_eq_false_iff, Bool.and_eq_false_iff, decide_eq_false_iff_not,
      beq_eq_false_iff_ne]
    omega
  · have hnone : "-.einfNa".toList.all (!isBlank ·) = true := by decide
    simpa using List.all_eq_true.1 hnone c (List.contains_iff_mem.1 h)

theorem print_ne_nil (layout : Layout) (x : Binary64) : layout.print x ≠ [] := by
  intro h
  have hread := Binary64.read?_print layout x
  rw [h] at hread
  cases hread

theorem isWord_print (layout : Layout) (x : Binary64) : IsWord (layout.print x) :=
  ⟨print_ne_nil layout x, fun _ hc => isBlank_of_isNumberChar (isNumberChar_of_mem_print hc)⟩

end Layout

theorem Operator.isWord_symbol (operator : Operator) : IsWord [operator.symbol] := by
  refine ⟨List.cons_ne_nil _ _, List.forall_mem_singleton.2 ?_⟩
  cases operator <;> rfl

/-! ## Expressions in a layout -/

namespace Expression

/-- An expression with its numbers in a layout. -/
def written (layout : Layout) (e : Expression) : Text :=
  layout.print e.left ++ ' ' :: e.operator.symbol :: ' ' :: layout.print e.right

theorem print_eq (e : Expression) : e.print = e.written .plain := rfl

/-- A written expression has three words. -/
theorem words_written (layout : Layout) (e : Expression) :
    words (e.written layout) =
      [layout.print e.left, [e.operator.symbol], layout.print e.right] := by
  have hleft := layout.isWord_print e.left
  have hright := layout.isWord_print e.right
  have hsymbol := e.operator.isWord_symbol
  have hblank : isBlank ' ' = true := rfl
  have hrest : words (e.operator.symbol :: ' ' :: layout.print e.right) =
      [[e.operator.symbol], layout.print e.right] := by
    have hwords := words_append_cons hblank [e.operator.symbol] (layout.print e.right)
    rwa [words_eq_singleton hsymbol.1 hsymbol.2, words_eq_singleton hright.1 hright.2] at hwords
  rw [written, words_append_cons hblank, words_eq_singleton hleft.1 hleft.2, hrest]
  rfl

end Expression

namespace Entry

/-- A written expression says itself if its operands are finite, and says no other expression. -/
theorem read_written_iff (layout : Layout) {e e' : Expression} :
    read (e.written layout) = .ok (.expression e') ↔
      e' = e ∧ e.left.isFinite = true ∧ e.right.isFinite = true := by
  rw [read, e.words_written layout, ofWords, ofTriple]
  constructor
  · intro h
    split at h
    · next x y hx hy =>
      obtain ⟨rfl, hleft⟩ := (Binary64.operand?_print_eq_some_iff layout).1 hx
      obtain ⟨rfl, hright⟩ := (Binary64.operand?_print_eq_some_iff layout).1 hy
      rw [Operator.ofText?_symbol] at h
      cases h
      exact ⟨rfl, hleft, hright⟩
    · cases h
  · rintro ⟨rfl, hleft, hright⟩
    rw [(Binary64.operand?_print_eq_some_iff layout).2 ⟨rfl, hleft⟩,
      (Binary64.operand?_print_eq_some_iff layout).2 ⟨rfl, hright⟩]
    simp only [Operator.ofText?_symbol]

/-- Displaying an expression undoes reading it.
1. The text of an expression has three words, the symbol between the two numbers.
2. It says that expression, bit for bit, if the two operands are finite, and says no expression if
   they are not.
3. Finite numbers stand in it as digits, with a minus sign and a point where there are any.
4. What a line says is said by the text of its expression, and every calculator evaluates that text
   like the line. -/
theorem read_print :
    (∀ e : Expression, words e.print =
      [Layout.plain.print e.left, [e.operator.symbol], Layout.plain.print e.right]) ∧
      (∀ e e' : Expression, read e.print = .ok (.expression e') ↔
        e' = e ∧ e.left.isFinite = true ∧ e.right.isFinite = true) ∧
      (∀ x : Binary64, x.isFinite = true → ∀ c ∈ Layout.plain.print x,
        c.isDigit = true ∨ c = '-' ∨ c = '.') ∧
      ∀ line e, read line = .ok (.expression e) →
        read e.print = read line ∧
          ∀ calculator : Calculator, calculator.evaluate e.print = calculator.evaluate line := by
  refine ⟨Expression.words_written .plain, fun e e' => read_written_iff .plain,
    fun x hx c hc => Layout.mem_print_plain hx hc, fun line e hline => ?_⟩
  have hread : read e.print = read line := by
    rw [hline, e.print_eq, read_written_iff]
    exact ⟨rfl, isFinite_of_read hline⟩
  refine ⟨hread, fun calculator => ?_⟩
  rw [Calculator.evaluate, Calculator.evaluate, hread, hline]

/-- The least positive number and the greatest one, both behind a minus sign, with a minus sign
between them. -/
theorem read_print_extremes :
    ∃ e, read "-4.94e-324 - -1.7976931348623157e308".toList = .ok (.expression e) ∧
      e = ⟨.finite true 1, .subtract, .finite true 0x7FEFFFFFFFFFFFFF⟩ ∧
      e.print.length = 640 ∧ read e.print = .ok (.expression e) := by
  have hline : read "-4.94e-324 - -1.7976931348623157e308".toList =
      .ok (.expression ⟨.finite true 1, .subtract, .finite true 0x7FEFFFFFFFFFFFFF⟩) := by
    decide +kernel
  refine ⟨_, hline, rfl, by decide +kernel, ?_⟩
  rw [(read_print.2.2.2 _ _ hline).1, hline]

end Entry

end Abacus
