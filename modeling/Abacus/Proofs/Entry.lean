import Abacus.Entry
import Abacus.Proofs.Text.Split

/-!
# What a line says

A line is a keyword exactly if the keyword is its only word (`Entry.read_eq_keyword_iff`), and the
operands of an expression are finite (`Entry.isFinite_of_read`). An error repeats words of its line
and no other part of it (`Entry.mem_words_of_mem_echoed`), so the wording of an error breaks no
line: `Entry.newline_notMem_message`.
-/

namespace Abacus

/-! ## Characters of texts -/

theorem isBlank_newline : isBlank '\n' = true := rfl

theorem newline_notMem_of_mem_words {line word : Text} (h : word ∈ words line) : '\n' ∉ word := by
  intro hmem
  have hblank := (of_mem_words h).2 '\n' hmem
  rw [isBlank_newline] at hblank
  cases hblank

theorem notMem_toDigits {c : Char} (hc : c.isDigit = false) (n : Nat) : c ∉ toDigits n := by
  intro h
  rw [isDigit_of_mem_toDigits h] at hc
  cases hc

/-! ## Keywords and errors -/

namespace Keyword

theorem ofText?_eq_some_iff {word : Text} {k : Keyword} :
    ofText? word = some k ↔ word = k.text := by
  constructor
  · intro h
    unfold ofText? at h
    split at h
    · next hword =>
      cases h
      exact hword
    · split at h
      · next hword =>
        cases h
        exact hword
      · cases h
  · rintro rfl
    exact ofText?_text k

end Keyword

namespace EvalError

/-- The words of a line that an error repeats. -/
def echoed : EvalError → List Text
  | invalidNumber operands => operands
  | invalidOperator word => [word]
  | _ => []

/-- The wording of an error breaks a line only if a word that it repeats does. -/
theorem newline_notMem_message {error : EvalError} (h : ∀ word ∈ error.echoed, '\n' ∉ word) :
    '\n' ∉ error.message := by
  cases error with
  | invalidFormat count =>
    exact notMem_append_append (by decide +kernel) (notMem_toDigits rfl count) (by decide +kernel)
  | invalidNumber operands =>
    refine notMem_append_append (by decide +kernel) (fun hmem => ?_) (by decide +kernel)
    rcases mem_or_of_mem_intercalate hmem with hmem | ⟨word, hword, hmem⟩
    · revert hmem
      decide +kernel
    · exact h word hword hmem
  | invalidOperator word =>
    exact notMem_append_append (by decide +kernel) (h word List.mem_cons_self) (by decide +kernel)
  | divisionByZero => decide +kernel

end EvalError

/-! ## Lines -/

namespace Entry

theorem mem_of_mem_refused {word refusal : Text} (h : refusal ∈ refused word) : refusal = word := by
  unfold refused at h
  split at h
  · cases h
  · exact List.mem_singleton.1 h

/-- Three words say an expression or are refused; they say no keyword. -/
theorem ofTriple_ne_keyword (left op right : Text) (k : Keyword) :
    ofTriple left op right ≠ .ok (.keyword k) := by
  unfold ofTriple
  split
  · split <;> simp
  · simp

theorem mem_of_mem_echoed_ofTriple {left op right word : Text} {error : EvalError}
    (h : ofTriple left op right = .error error) (hword : word ∈ error.echoed) :
    word ∈ [left, op, right] := by
  unfold ofTriple at h
  split at h
  · split at h
    · cases h
    · cases h
      rw [EvalError.echoed, List.mem_singleton] at hword
      simp [hword]
  · cases h
    rw [EvalError.echoed, List.mem_append] at hword
    rcases hword with hword | hword
    · simp [mem_of_mem_refused hword]
    · simp [mem_of_mem_refused hword]

/-- A line is a keyword exactly if the keyword is its only word. -/
theorem read_eq_keyword_iff {line : Text} {k : Keyword} :
    read line = .ok (.keyword k) ↔ words line = [k.text] := by
  rw [read]
  constructor
  · intro h
    unfold ofWords at h
    split at h
    · next word hwords =>
      split at h
      · next k' hk =>
        cases h
        rw [hwords, Keyword.ofText?_eq_some_iff.1 hk]
      · cases h
    · exact absurd h (ofTriple_ne_keyword _ _ _ k)
    · cases h
  · intro h
    rw [h, ofWords, Keyword.ofText?_text]

theorem isFinite_of_operand? {word : Text} {x : Binary64} (h : Binary64.operand? word = some x) :
    x.isFinite = true :=
  (Option.filter_eq_some_iff.1 h).2

/-- Operands that are not finite are refused, whatever is between them. -/
theorem isFinite_of_ofTriple {left op right : Text} {e : Expression}
    (h : ofTriple left op right = .ok (.expression e)) :
    e.left.isFinite = true ∧ e.right.isFinite = true := by
  unfold ofTriple at h
  split at h
  · next x y hx hy =>
    split at h
    · cases h
      exact ⟨isFinite_of_operand? hx, isFinite_of_operand? hy⟩
    · cases h
  · cases h

/-- The operands of a line are finite. -/
theorem isFinite_of_read {line : Text} {e : Expression} (h : read line = .ok (.expression e)) :
    e.left.isFinite = true ∧ e.right.isFinite = true := by
  rw [read] at h
  unfold ofWords at h
  split at h
  · split at h
    · cases h
    · cases h
  · exact isFinite_of_ofTriple h
  · cases h

/-- What an error repeats are words of the line. -/
theorem mem_words_of_mem_echoed {line word : Text} {error : EvalError}
    (h : read line = .error error) (hword : word ∈ error.echoed) : word ∈ words line := by
  rw [read] at h
  unfold ofWords at h
  split at h
  · split at h
    · cases h
    · cases h
      cases hword
  · next left op right hwords =>
    rw [hwords]
    exact mem_of_mem_echoed_ofTriple h hword
  · cases h
    cases hword

/-- The wording of an error of a line breaks no line. -/
theorem newline_notMem_message {line : Text} {error : EvalError} (h : read line = .error error) :
    '\n' ∉ error.message :=
  EvalError.newline_notMem_message fun _ hword =>
    newline_notMem_of_mem_words (mem_words_of_mem_echoed h hword)

end Entry

end Abacus
