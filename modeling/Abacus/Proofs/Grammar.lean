import Abacus.Proofs.Decimal.Operand
import Abacus.Proofs.Entry
import Abacus.Proofs.Text.Spaced

/-!
# The grammar of lines

`Says` lists what lists of words say, with one rule for every kind of answer. Every list of words
says one thing, and a line says what its words say (`Entry.ofWords_eq_iff`). `Entry.read_by_grammar`
spells this out for every answer.
-/

namespace Abacus

open Binary64 (IsOperand Denotes)

/-- What a list of words says. -/
inductive Says : List Text → Except EvalError Entry → Prop where
  | keyword (k : Keyword) : Says [k.text] (.ok (.keyword k))
  | format {ws : List Text} (hkeyword : ∀ k : Keyword, ws ≠ [k.text]) (hlength : ws.length ≠ 3) :
      Says ws (.error (.invalidFormat ws.length))
  | number {left op right : Text} (h : ¬(IsOperand left ∧ IsOperand right)) :
      Says [left, op, right]
        (.error (.invalidNumber ([left, right].filter fun word => ¬IsOperand word)))
  | operator {left op right : Text} (hleft : IsOperand left) (hright : IsOperand right)
      (hop : ∀ operator : Operator, op ≠ [operator.symbol]) :
      Says [left, op, right] (.error (.invalidOperator op))
  | expression {left right : Text} {e : Expression} (hleft : Denotes left e.left)
      (hright : Denotes right e.right) :
      Says [left, [e.operator.symbol], right] (.ok (.expression e))

namespace Entry

/-! ## Every list of words says something -/

theorem refused_eq (word : Text) : refused word = [word].filter fun word => ¬IsOperand word := by
  unfold refused
  split
  · next h =>
    have hword := Binary64.isSome_operand?_iff.1 h
    simp [hword]
  · next h =>
    have hword := mt Binary64.isSome_operand?_iff.2 h
    simp [hword]

theorem refused_append_refused (left right : Text) :
    refused left ++ refused right = [left, right].filter fun word => ¬IsOperand word := by
  rw [refused_eq, refused_eq, ← List.filter_append, List.singleton_append]

theorem says_ofTriple (left op right : Text) : Says [left, op, right] (ofTriple left op right) := by
  unfold ofTriple
  split
  · next x y hx hy =>
    split
    · next operator hop =>
      obtain rfl := Operator.eq_symbol_of_ofText? hop
      have hleft := Binary64.operand?_eq_some_iff.1 hx
      have hright := Binary64.operand?_eq_some_iff.1 hy
      exact Says.expression (e := ⟨x, operator, y⟩) hleft hright
    · next hop =>
      refine .operator (Binary64.isOperand_iff.2 ⟨x, hx⟩) (Binary64.isOperand_iff.2 ⟨y, hy⟩) ?_
      rintro operator rfl
      rw [Operator.ofText?_symbol] at hop
      cases hop
  · next hnone =>
    rw [refused_append_refused]
    refine .number fun ⟨hleft, hright⟩ => ?_
    obtain ⟨x, hx⟩ := Binary64.isOperand_iff.1 hleft
    obtain ⟨y, hy⟩ := Binary64.isOperand_iff.1 hright
    exact hnone x y hx hy

theorem says_ofWords (ws : List Text) : Says ws (ofWords ws) := by
  unfold ofWords
  split
  · next word =>
    split
    · next k hk =>
      rw [Keyword.ofText?_eq_some_iff.1 hk]
      exact .keyword k
    · next hnone =>
      refine .format (fun k hk => ?_) (by decide : 1 ≠ 3)
      rw [Keyword.ofText?_eq_some_iff.2 (List.singleton_inj.1 hk)] at hnone
      cases hnone
  · exact says_ofTriple _ _ _
  · next hone hthree =>
    refine .format (fun k hk => hone _ hk) fun hlength => ?_
    obtain ⟨left, op, right, rfl⟩ := List.length_eq_three.1 hlength
    exact hthree _ _ _ rfl

/-! ## No list of words says two things -/

theorem ofText?_eq_none {word : Text} (h : ∀ k : Keyword, [word] ≠ [k.text]) :
    Keyword.ofText? word = none :=
  Option.eq_none_iff_forall_ne_some.2 fun k hk =>
    h k (List.singleton_inj.2 (Keyword.ofText?_eq_some_iff.1 hk))

theorem ofWords_eq_of_says {ws : List Text} {answer : Except EvalError Entry}
    (h : Says ws answer) : ofWords ws = answer := by
  cases h with
  | keyword k => rw [ofWords, Keyword.ofText?_text]
  | format hkeyword hlength =>
    unfold ofWords
    split
    · rw [ofText?_eq_none hkeyword]
      rfl
    · exact absurd rfl hlength
    · rfl
  | @number left op right h =>
    rw [ofWords, ofTriple, refused_append_refused]
    split
    · next x y hx hy =>
      exact absurd ⟨Binary64.isOperand_iff.2 ⟨x, hx⟩, Binary64.isOperand_iff.2 ⟨y, hy⟩⟩ h
    · rfl
  | @operator left op right hleft hright hop =>
    obtain ⟨x, hx⟩ := Binary64.isOperand_iff.1 hleft
    obtain ⟨y, hy⟩ := Binary64.isOperand_iff.1 hright
    have hnone : Operator.ofText? op = none :=
      Option.eq_none_iff_forall_ne_some.2 fun operator h =>
        hop operator (Operator.eq_symbol_of_ofText? h)
    simp only [ofWords, ofTriple, hx, hy, hnone]
  | expression hleft hright =>
    simp only [ofWords, ofTriple, Binary64.operand?_eq_some_iff.2 hleft,
      Binary64.operand?_eq_some_iff.2 hright, Operator.ofText?_symbol]

theorem ofWords_eq_iff {ws : List Text} {answer : Except EvalError Entry} :
    ofWords ws = answer ↔ Says ws answer := by
  constructor
  · rintro rfl
    exact says_ofWords ws
  · exact ofWords_eq_of_says

/-- A line says what its words say. -/
theorem read_eq_iff {line : Text} {ws : List Text} (hline : Spaced line ws)
    {answer : Except EvalError Entry} : read line = answer ↔ Says ws answer := by
  rw [read, hline.words_eq, ofWords_eq_iff]

end Entry

/-! ## What an answer means -/

namespace Says

variable {ws : List Text}

theorem keyword_iff {k : Keyword} : Says ws (.ok (.keyword k)) ↔ ws = [k.text] := by
  constructor
  · rintro ⟨⟩
    rfl
  · rintro rfl
    exact .keyword k

theorem invalidFormat_iff {count : Nat} : Says ws (.error (.invalidFormat count)) ↔
    count = ws.length ∧ ws.length ≠ 3 ∧ ws ≠ ["history".toList] ∧ ws ≠ ["exit".toList] := by
  constructor
  · rintro ⟨⟩
    next hkeyword hlength => exact ⟨rfl, hlength, hkeyword .history, hkeyword .exit⟩
  · rintro ⟨rfl, hlength, hhistory, hexit⟩
    refine .format (fun k => ?_) hlength
    cases k with
    | history => exact hhistory
    | exit => exact hexit

theorem invalidNumber_iff {operands : List Text} :
    Says ws (.error (.invalidNumber operands)) ↔ ∃ left op right, ws = [left, op, right] ∧
      ¬(IsOperand left ∧ IsOperand right) ∧
        operands = [left, right].filter fun word => ¬IsOperand word := by
  constructor
  · rintro ⟨⟩
    next left op right h => exact ⟨left, op, right, rfl, h, rfl⟩
  · rintro ⟨left, op, right, rfl, h, rfl⟩
    exact .number h

theorem forall_ne_symbol_iff {word : Text} : (∀ operator : Operator, word ≠ [operator.symbol]) ↔
    word ∉ ["+".toList, "-".toList, "*".toList, "/".toList] := by
  constructor
  · intro h hmem
    simp only [List.mem_cons, List.not_mem_nil, or_false] at hmem
    rcases hmem with rfl | rfl | rfl | rfl
    · exact h .add rfl
    · exact h .subtract rfl
    · exact h .multiply rfl
    · exact h .divide rfl
  · rintro h operator rfl
    cases operator <;> exact h (by decide)

theorem invalidOperator_iff {op : Text} : Says ws (.error (.invalidOperator op)) ↔
    ∃ left right, ws = [left, op, right] ∧ IsOperand left ∧ IsOperand right ∧
      op ∉ ["+".toList, "-".toList, "*".toList, "/".toList] := by
  constructor
  · rintro ⟨⟩
    next left right hleft hright hop =>
      exact ⟨left, right, rfl, hleft, hright, forall_ne_symbol_iff.1 hop⟩
  · rintro ⟨left, right, rfl, hleft, hright, hop⟩
    exact .operator hleft hright (forall_ne_symbol_iff.2 hop)

theorem expression_iff {e : Expression} : Says ws (.ok (.expression e)) ↔ ∃ left right,
    ws = [left, [e.operator.symbol], right] ∧ Denotes left e.left ∧ Denotes right e.right := by
  constructor
  · rintro ⟨⟩
    next left right hleft hright => exact ⟨left, right, rfl, hleft, hright⟩
  · rintro ⟨left, right, rfl, hleft, hright⟩
    exact .expression hleft hright

theorem not_divisionByZero : ¬Says ws (.error .divisionByZero) :=
  nofun

end Says

namespace Entry

/-- What a line says is no matter of arithmetic. -/
theorem read_ne_divisionByZero (line : Text) : read line ≠ .error .divisionByZero :=
  fun h => Says.not_divisionByZero ((read_eq_iff (spaced_words line)).1 h)

/-- What lines say:
1. a line is spaced by one list of words, and lines that are spaced by the same words say the same;
2. so blanks between two parts of a line can be exchanged for any others;
3. and blanks at its ends change nothing;
4. a line is a keyword exactly if the keyword is its only word;
5. otherwise it has the wrong form exactly if its words are not three, and their number is told;
6. of three words, the outer ones are refused exactly if one of them is no operand, whatever is
   between them, and those that are none are told in order;
7. then the middle one is refused exactly if it is none of the four symbols;
8. then the line is an expression of what the outer words denote and what the middle one stands for;
9. no line is refused for a division by zero. -/
theorem read_by_grammar :
    (∀ line, ∃! ws, Spaced line ws) ∧
      (∀ line line' ws, Spaced line ws → Spaced line' ws → read line = read line') ∧
      (∀ before gap gap' after, AllBlank gap → AllBlank gap' → gap ≠ [] → gap' ≠ [] →
        read (before ++ (gap ++ after)) = read (before ++ (gap' ++ after))) ∧
      (∀ front line back, AllBlank front → AllBlank back →
        read (front ++ (line ++ back)) = read line) ∧
      ∀ line ws, Spaced line ws →
        (read line = .ok (.keyword .history) ↔ ws = ["history".toList]) ∧
        (read line = .ok (.keyword .exit) ↔ ws = ["exit".toList]) ∧
        (∀ count, read line = .error (.invalidFormat count) ↔ count = ws.length ∧
          ws.length ≠ 3 ∧ ws ≠ ["history".toList] ∧ ws ≠ ["exit".toList]) ∧
        (∀ operands, read line = .error (.invalidNumber operands) ↔ ∃ left op right,
          ws = [left, op, right] ∧ ¬(IsOperand left ∧ IsOperand right) ∧
            operands = [left, right].filter fun word => ¬IsOperand word) ∧
        (∀ op, read line = .error (.invalidOperator op) ↔ ∃ left right, ws = [left, op, right] ∧
          IsOperand left ∧ IsOperand right ∧
            op ∉ ["+".toList, "-".toList, "*".toList, "/".toList]) ∧
        (∀ e, read line = .ok (.expression e) ↔ ∃ left right,
          ws = [left, [e.operator.symbol], right] ∧ Denotes left e.left ∧ Denotes right e.right) ∧
        read line ≠ .error .divisionByZero := by
  refine ⟨fun line => ⟨words line, words_eq_iff.1 rfl, fun ws h => (words_eq_iff.2 h).symm⟩,
    fun line line' ws h h' => ?_, fun before gap gap' after hgap hgap' hne hne' => ?_,
    fun front line back hfront hback => ?_, fun line ws hline => ?_⟩
  · rw [read, read, h.words_eq, h'.words_eq]
  · rw [read, read, words_between hgap hne, words_between hgap' hne']
  · rw [read, read, words_around hfront hback]
  · simp only [ne_eq, read_eq_iff hline]
    exact ⟨Says.keyword_iff, Says.keyword_iff, fun _ => Says.invalidFormat_iff,
      fun _ => Says.invalidNumber_iff, fun _ => Says.invalidOperator_iff,
      fun _ => Says.expression_iff, Says.not_divisionByZero⟩

/-- The operands are judged before the operator, each by itself. -/
theorem read_by_grammar_refused :
    read " inf\u00A0x\t1e400 ".toList =
      .error (.invalidNumber ["inf".toList, "1e400".toList]) := by
  have hline : Spaced " inf\u00A0x\t1e400 ".toList ["inf".toList, ['x'], "1e400".toList] :=
    words_eq_iff.1 (by decide +kernel)
  obtain ⟨-, -, -, -, hsays⟩ := read_by_grammar
  obtain ⟨-, -, -, hnumber, -⟩ := hsays _ _ hline
  exact (hnumber _).2 ⟨_, _, _, rfl, by decide +kernel, by decide +kernel⟩

end Entry

end Abacus
