import Abacus.Proofs.History.RoundTrip
import Abacus.Proofs.Text.Ascii

/-!
# Histories are plain

A written history is ASCII that needs no quotes (`of_mem_bytes`), and its lines are its header and
its records one by one (`bytes_append`). So it can be read without the rules of tables: `bytes_plain`
compares what cutting alone finds in it with the rows that a reader of tables finds.
-/

namespace Abacus.History

open Table

/-! ## The fields of a history -/

/-- The header and the fields of the records, in bytes. -/
def fieldBytes (records : List Record) : List (List Bytes) :=
  (textRows records).map (List.map Utf8.encode)

theorem isBare_fieldBytes (records : List Record) : IsBare (fieldBytes records) :=
  isBare_encode (allPlain_textRows records)

theorem bytes_eq_written (records : List Record) :
    bytes records = written (fieldBytes records) := by
  rw [bytes, text_eq_flatMap, encode_lines (allPlain_textRows records), fieldBytes]

theorem rows_bytes (records : List Record) :
    (rows (bytes records)).map Row.fields = fieldBytes records := by
  have hrows := unplaced_rows (rendering_bytes records) (not_prefix_header records)
  rw [← fields_numbered 0 (fieldBytes records), fieldBytes, ← hrows, List.map_map]
  rfl

/-! ## The characters of a history -/

/-- The characters of a history are those of its header, of its records, and what stands between
them. -/
theorem forall_mem_text {P : Char → Prop} {records : List Record} (hfeed : P '\n') (hcomma : P ',')
    (hname : ∀ column : Column, ∀ c ∈ column.name, P c) (hsymbol : ∀ op : Operator, P op.symbol)
    (hnumber : ∀ record ∈ records, ∀ x ∈ numbers record, ∀ c ∈ Layout.field.print x, P c) :
    ∀ c ∈ text records, P c := by
  intro c hc
  rw [text_eq_flatMap] at hc
  obtain ⟨row, hrow, hc⟩ := List.mem_flatMap.1 hc
  obtain ⟨hlength, hplain⟩ := allPlain_textRows records row hrow
  rw [line_of_plain hlength hplain, List.mem_append, List.mem_singleton] at hc
  obtain hline | rfl := hc
  · obtain hseparator | ⟨field, hfield, hmem⟩ := mem_or_of_mem_intercalate hline
    · obtain rfl := List.mem_singleton.1 hseparator
      exact hcomma
    · rcases List.mem_cons.1 hrow with rfl | hrow
      · obtain ⟨column, -, rfl⟩ := List.mem_map.1 hfield
        exact hname column c hmem
      · obtain ⟨record, hrecord, rfl⟩ := List.mem_map.1 hrow
        exact forall_mem_fields (hnumber record hrecord) hsymbol field hfield c hmem
  · exact hfeed

/-- A character of ASCII that can be seen and is no quote. -/
def isMark (c : Char) : Bool :=
  0x20 < c.toNat && c.toNat < 0x7F && c.toNat != 0x22 && c.toNat != 0x27

theorem isMark_iff {c : Char} : isMark c = true ↔
    0x20 < c.toNat ∧ c.toNat < 0x7F ∧ c.toNat ≠ 0x22 ∧ c.toNat ≠ 0x27 := by
  simp only [isMark, Bool.and_eq_true, decide_eq_true_eq, bne_iff_ne, and_assoc]

theorem isMark_of_isNumberChar {c : Char} (h : Layout.isNumberChar c = true) :
    isMark c = true := by
  have hletters : ∀ d ∈ "-.einfNa".toList, isMark d = true := List.all_eq_true.1 (by decide)
  rw [Layout.isNumberChar, Bool.or_eq_true, List.contains_iff_mem, Char.isDigit_iff_toNat] at h
  rcases h with ⟨hleast, hgreatest⟩ | h
  · have hzero : '0'.toNat = 0x30 := rfl
    have hnine : '9'.toNat = 0x39 := rfl
    rw [isMark_iff]
    omega
  · exact hletters c h

/-- A history is made of such characters and of the ends of its lines. -/
theorem isMark_of_mem_text {records : List Record} {c : Char} (h : c ∈ text records) :
    c = '\n' ∨ isMark c = true := by
  have hname : ∀ column : Column, column.name.all isMark = true := by
    intro column
    cases column <;> decide
  have hsymbol : ∀ op : Operator, isMark op.symbol = true := by
    intro op
    cases op <;> decide
  refine forall_mem_text (P := fun c => c = '\n' ∨ isMark c = true) (.inl rfl) (.inr (by decide))
    (fun column c hc => .inr (List.all_eq_true.1 (hname column) c hc))
    (fun op => .inr (hsymbol op)) ?_ c h
  exact fun _ _ x _ c hc => .inr (isMark_of_isNumberChar (Layout.isNumberChar_of_mem_print hc))

/-- Its bytes are line feeds and visible characters of ASCII, none of them a quote. -/
theorem of_mem_bytes {records : List Record} {b : UInt8} (h : b ∈ bytes records) :
    b = lineFeed ∨ 0x20 < b.toNat ∧ b.toNat < 0x7F ∧ b ≠ quoteMark ∧ b ≠ 0x27 := by
  have hascii : IsAscii (text records) := by
    intro c hc
    rcases isMark_of_mem_text hc with rfl | hmark
    · decide
    · exact (isMark_iff.1 hmark).2.1.trans (by decide)
  obtain ⟨c, hc, hcode⟩ := Utf8.exists_of_mem_encode hascii h
  rcases isMark_of_mem_text hc with rfl | hmark
  · exact .inl (UInt8.toNat_inj.1 hcode.symm)
  · rw [isMark_iff, hcode] at hmark
    obtain ⟨hleast, hgreatest, hquote, hapostrophe⟩ := hmark
    exact .inr ⟨hleast, hgreatest, ne_of_apply_ne UInt8.toNat hquote,
      ne_of_apply_ne UInt8.toNat hapostrophe⟩

/-! ## Histories that are plain -/

/-- Behind the header of a history stand its records. -/
theorem afterFirstLine_bytes (records : List Record) :
    afterFirstLine (bytes records) = written ((records.map fields).map (List.map Utf8.encode)) := by
  have hheader : ∀ field ∈ (Column.all.map Column.name).map Utf8.encode, CanStandBare field :=
    (isBare_fieldBytes [] _ List.mem_cons_self).2
  rw [bytes_eq_written, fieldBytes, textRows, List.map_cons, afterFirstLine_written hheader]

theorem bytes_append (records others : List Record) :
    bytes (records ++ others) = bytes records ++ afterFirstLine (bytes others) := by
  rw [afterFirstLine_bytes, bytes_eq_written, bytes_eq_written, ← written_append]
  simp only [fieldBytes, textRows, List.map_append, List.map_cons, List.cons_append]

theorem bytes_eq_header_append (records : List Record) :
    bytes records = Utf8.encode "operand1,operation,operand2,result\n".toList ++
      afterFirstLine (bytes records) := by
  rw [afterFirstLine_bytes, bytes_eq_written, fieldBytes, textRows, List.map_cons, written_cons]
  congr 1

/-- A written history needs no reader of tables.
1. Behind its header it is made of its records one by one: a history of more records goes on with
   what the history of these has behind its header.
2. Besides its line feeds it holds visible characters of ASCII alone, none of them a quote; so it
   holds no carriage return and no space.
3. It ends with a line feed, and has one for its header and one for each record.
4. Each line has three commas.
5. Cut at line feeds and at commas, it has the fields that a reader of tables finds in it, which are
   the names of the columns and the fields of the records. -/
theorem bytes_plain (records : List Record) :
    (∀ others, bytes (records ++ others) = bytes records ++ afterFirstLine (bytes others)) ∧
      bytes records = Utf8.encode "operand1,operation,operand2,result\n".toList ++
        afterFirstLine (bytes records) ∧
      (∀ b ∈ bytes records,
        b = lineFeed ∨ 0x20 < b.toNat ∧ b.toNat < 0x7F ∧ b ≠ quoteMark ∧ b ≠ 0x27) ∧
      (bytes records).getLast? = some lineFeed ∧
      (bytes records).count lineFeed = records.length + 1 ∧
      (∀ line ∈ wholeLines (bytes records), line.count comma = 3) ∧
      splitFields (bytes records) = (rows (bytes records)).map Row.fields ∧
      (rows (bytes records)).map Row.fields =
        (Column.all.map Column.name :: records.map fields).map (List.map Utf8.encode) := by
  -- All that is counted or cut is said of tables without quotes; this is one of them.
  have hwritten := bytes_eq_written records
  have hbare := isBare_fieldBytes records
  refine ⟨bytes_append records, bytes_eq_header_append records, fun _ => of_mem_bytes, ?_, ?_, ?_,
    ?_, rows_bytes records⟩
  · rw [hwritten]
    exact getLast?_written (List.cons_ne_nil _ _)
  · rw [hwritten, count_lineFeed_written hbare, fieldBytes, List.length_map, textRows,
      List.length_cons, List.length_map]
  · rw [hwritten, wholeLines_written hbare]
    refine List.forall_mem_map.2 fun fields hfields => ?_
    obtain ⟨row, hrow, rfl⟩ := List.mem_map.1 hfields
    have hcount := count_comma_line hbare hfields
    rw [List.length_map, length_of_mem_textRows hrow] at hcount
    exact Nat.add_right_cancel hcount
  · rw [rows_bytes, hwritten, splitFields_written hbare]

/-- Fields in quotes are not found by such a cut. -/
example : splitFields [quoteMark, comma, quoteMark, lineFeed] = [[[quoteMark], [quoteMark]]] ∧
    (rows [quoteMark, comma, quoteMark, lineFeed]).map Row.fields = [[[comma]]] := by
  decide +kernel

end Abacus.History
