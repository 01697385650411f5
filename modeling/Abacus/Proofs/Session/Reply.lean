import Abacus.Proofs.Calculator
import Abacus.Proofs.Decimal.Layout
import Abacus.Session

/-!
# Replies to lines

What a line says, whether it is accepted and what is replied to it are functions of the line; the
ledger decides the listing of a `history` line and nothing else. Every reply to another line is one
line of text (`isLine_lineReply`), and a listing is one line a record (`listing_eq`,
`isLine_listingLine`).
-/

namespace Abacus.Session

/-- The keyword is the only word of the line. -/
def isKeyword (k : Keyword) (line : Bytes) : Bool :=
  words (Utf8.decodeLossy line) = [k.text]

/-- The record of a line, if it is accepted: its expression and the value that this has. -/
def accepted? (line : Bytes) : Option Record :=
  match Entry.read (Utf8.decodeLossy line) with
  | .ok (.expression e) => (e.operator.apply e.left e.right).map (.ofExpression e)
  | _ => none

/-- The records of the accepted lines, in their order. -/
def acceptedIn (lines : List Bytes) : List Record :=
  lines.filterMap accepted?

/-- The reply to a line that is no keyword: the value of its expression, or what is wrong. -/
def lineReply (line : Bytes) : Text :=
  match Entry.read (Utf8.decodeLossy line) with
  | .ok (.keyword _) => []
  | .ok (.expression e) =>
    match e.evaluate with
    | .ok result => resultReply result
    | .error error => errorReply error
  | .error error => errorReply error

/-- The reply to a line behind some earlier lines. -/
def replyTo (earlier : List Bytes) (line : Bytes) : Text :=
  if isKeyword .history line then listing (acceptedIn earlier) else lineReply line

theorem isKeyword_iff {k : Keyword} {line : Bytes} :
    isKeyword k line = true ↔ Entry.read (Utf8.decodeLossy line) = .ok (.keyword k) := by
  rw [isKeyword, decide_eq_true_iff, Entry.read_eq_keyword_iff]

theorem replyTo_of_not_history {line : Bytes} (h : isKeyword .history line = false)
    (earlier : List Bytes) : replyTo earlier line = lineReply line := by
  rw [replyTo, h]
  rfl

/-- The record of a line is that of its text. -/
theorem accepted?_eq (line : Bytes) :
    accepted? line = Calculator.recordOf? (Utf8.decodeLossy line) := rfl

/-- A line is accepted if it says an expression that divides by no zero. -/
theorem accepted?_eq_some_iff {line : Bytes} {record : Record} :
    accepted? line = some record ↔
      Entry.read (Utf8.decodeLossy line) = .ok (.expression record.expression) ∧
        record.operator.apply record.left record.right = some record.result := by
  rw [accepted?_eq, Calculator.recordOf?_eq_some_iff]

/-- The reply to an accepted line shows the result of its record. -/
theorem lineReply_of_accepted {line : Bytes} {record : Record} (h : accepted? line = some record) :
    lineReply line = resultReply record.result := by
  obtain ⟨hread, happly⟩ := accepted?_eq_some_iff.1 h
  have hvalue : record.expression.evaluate = .ok record.result := by
    rw [Expression.evaluate, Record.expression, happly]
  simp only [lineReply, hread, hvalue]

/-! ## One line of text -/

/-- The text ends with a line break and holds no other. -/
def IsLine (text : Text) : Prop :=
  ∃ body, text = body ++ ['\n'] ∧ '\n' ∉ body

theorem newline_notMem_print (layout : Layout) (x : Binary64) : '\n' ∉ layout.print x := by
  intro h
  have hchar := Layout.isNumberChar_of_mem_print h
  revert hchar
  decide

theorem isLine_resultReply (result : Binary64) : IsLine (resultReply result) := by
  refine ⟨_, rfl, fun h => ?_⟩
  rcases List.mem_append.1 h with h | h
  · revert h
    decide
  · exact newline_notMem_print _ result h

theorem isLine_errorReply {error : EvalError} (h : '\n' ∉ error.message) :
    IsLine (errorReply error) := by
  refine ⟨_, rfl, fun hmem => ?_⟩
  rcases List.mem_append.1 hmem with hmem | hmem
  · revert hmem
    decide
  · exact h hmem

/-- The words that an error repeats break no line, so no input makes a second line of a reply. -/
theorem isLine_lineReply {line : Bytes} (hhistory : isKeyword .history line = false)
    (hexit : isKeyword .exit line = false) : IsLine (lineReply line) := by
  unfold lineReply
  split
  · next k hread =>
    exfalso
    have hkey := isKeyword_iff.2 hread
    cases k with
    | history => exact Bool.false_ne_true (hhistory.symm.trans hkey)
    | exit => exact Bool.false_ne_true (hexit.symm.trans hkey)
  · next e _ =>
    rw [Expression.evaluate]
    cases e.operator.apply e.left e.right with
    | some result => exact isLine_resultReply result
    | none =>
      have hmessage : '\n' ∉ EvalError.divisionByZero.message :=
        EvalError.newline_notMem_message (List.forall_mem_nil _)
      exact isLine_errorReply hmessage
  · next error hread => exact isLine_errorReply (Entry.newline_notMem_message hread)

/-! ## Listings -/

theorem newline_notMem_listing (record : Record) : '\n' ∉ record.listing := by
  have hsymbol : record.operator.symbol ≠ '\n' := by
    cases record.operator <;> decide
  simp [Record.listing, newline_notMem_print, hsymbol.symm]

/-- A listed record takes one line. -/
theorem isLine_listingLine (number : Nat) (record : Record) :
    IsLine (listingLine number record) := by
  refine ⟨_, rfl, ?_⟩
  have hdigits := notMem_toDigits (c := '\n') rfl number
  simp [padLeft, hdigits, newline_notMem_listing]

theorem listingLines_eq (number : Nat) (records : List Record) :
    listingLines number records =
      (records.mapIdx fun i record => listingLine (number + i) record).flatten := by
  induction records generalizing number with
  | nil => rfl
  | cons record records ih =>
    rw [listingLines, ih, List.mapIdx_cons, List.flatten_cons]
    simp only [Nat.add_zero, Nat.add_right_comm number 1, Nat.add_assoc]

/-- A listing is one line a record, numbered from one, or says that there are none. -/
theorem listing_eq (records : List Record) :
    listing records =
      if records = [] then "No calculations yet.\n".toList
      else (records.mapIdx fun i record => listingLine (i + 1) record).flatten := by
  rw [listing, listingLines_eq]
  simp only [Nat.add_comm 1]

/-- A listing that is not empty is the front of every later one. -/
theorem listing_prefix {first : List Record} (hne : first ≠ []) (second : List Record) :
    listing first <+: listing (first ++ second) := by
  rw [listing_eq, listing_eq, if_neg hne, if_neg fun h => hne (List.append_eq_nil_iff.1 h).1,
    List.mapIdx_append, List.flatten_append]
  exact List.prefix_append _ _

end Abacus.Session
