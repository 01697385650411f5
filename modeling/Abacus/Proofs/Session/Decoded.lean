import Abacus.Proofs.Session.Endings
import Abacus.Proofs.Text.WellFormed

/-!
# Decoding before and after cutting

No character takes a line feed from the bytes around it, so it makes no difference if an input is
cut into lines and each line is decoded, or if the input is decoded and its text is cut:
`Utf8.splitOn_decodeLossy`. A session hears the lines that `cutAt` cuts off at line feeds
(`heard_eq_cutAt`), with their ends. `execute_decoded` concludes that a session does on any bytes
what it does on the UTF-8 of their text.
-/

namespace Abacus

section CutAt

variable {α : Type}

/-- What is behind the last separator, where it counts as a part: it is not nothing, and the list is
not broken off. -/
def unfinished (tail : List α) : Ending → List (List α)
  | .finished => if tail.isEmpty then [] else [tail]
  | .broken _ => []

/-- The parts of a list in front of its separators, each with its separator behind it, and the
unfinished one. -/
def cutAt [BEq α] (separator : α) (whole : List α) (ending : Ending) : List (List α) :=
  let parts := whole.splitOn separator
  parts.dropLast.map (· ++ [separator]) ++ unfinished (parts.getLast?.getD []) ending

theorem map_unfinished {β : Type} {f : List α → List β} (hf : ∀ part, f part = [] ↔ part = [])
    (tail : List α) (ending : Ending) :
    (unfinished tail ending).map f = unfinished (f tail) ending := by
  cases ending with
  | broken reason => rfl
  | finished =>
    simp only [unfinished, List.isEmpty_iff, hf, apply_ite (List.map f), List.map_nil,
      List.map_cons]

variable [BEq α] [LawfulBEq α] {separator : α} {bodies : List (List α)} {tail : List α}

theorem cutAt_flatMap (hbody : ∀ body ∈ bodies, separator ∉ body) (htail : separator ∉ tail)
    (ending : Ending) :
    cutAt separator (bodies.flatMap (· ++ [separator]) ++ tail) ending =
      bodies.map (· ++ [separator]) ++ unfinished tail ending := by
  simp only [cutAt, splitOn_flatMap hbody htail, List.dropLast_concat, List.getLast?_concat,
    Option.getD_some]

end CutAt

namespace Utf8

theorem decodeLossy_eq_nil_iff {bytes : Bytes} : decodeLossy bytes = [] ↔ bytes = [] := by
  rw [decodeLossy, List.map_eq_nil_iff]
  constructor
  · intro h
    unfold pieces at h
    split at h
    · rfl
    · split at h <;> cases h
  · rintro rfl
    rw [pieces]

theorem newline_notMem_decodeLossy {bytes : Bytes} (h : lineFeed ∉ bytes) :
    '\n' ∉ decodeLossy bytes :=
  fun hmem => h (mem_of_mem_decodeLossy hmem (by decide))

/-- Bytes behind each of which a line feed stands are decoded one by one. -/
theorem decodeLossy_flatMap (bodies : List Bytes) (tail : Bytes) :
    decodeLossy (bodies.flatMap (· ++ [lineFeed]) ++ tail) =
      (bodies.map decodeLossy).flatMap (· ++ ['\n']) ++ decodeLossy tail := by
  induction bodies with
  | nil => rfl
  | cons body bodies ih =>
    rw [List.flatMap_cons, List.append_assoc, List.append_assoc, List.singleton_append,
      decodeLossy_append_cons (by decide), ih, List.map_cons, List.flatMap_cons, List.append_assoc,
      List.append_assoc]
    rfl

/-- Cutting at line feeds commutes with decoding. -/
theorem splitOn_decodeLossy (input : Bytes) :
    (input.splitOn lineFeed).map decodeLossy = (decodeLossy input).splitOn '\n' := by
  obtain ⟨bodies, tail, hcut⟩ := Session.exists_cutsInto input
  have hbodies : ∀ body ∈ bodies.map decodeLossy, '\n' ∉ body :=
    List.forall_mem_map.2 fun body hmem => newline_notMem_decodeLossy (hcut.body body hmem)
  rw [hcut.whole, splitOn_flatMap hcut.body hcut.tail, decodeLossy_flatMap,
    splitOn_flatMap hbodies (newline_notMem_decodeLossy hcut.tail), List.map_append]
  rfl

/-- Lines with their ends are decoded one by one as well. -/
theorem cutAt_decodeLossy (input : Bytes) (ending : Ending) :
    (cutAt lineFeed input ending).map decodeLossy = cutAt '\n' (decodeLossy input) ending := by
  obtain ⟨bodies, tail, hcut⟩ := Session.exists_cutsInto input
  have hbodies : ∀ body ∈ bodies.map decodeLossy, '\n' ∉ body :=
    List.forall_mem_map.2 fun body hmem => newline_notMem_decodeLossy (hcut.body body hmem)
  rw [hcut.whole, cutAt_flatMap hcut.body hcut.tail, decodeLossy_flatMap,
    cutAt_flatMap hbodies (newline_notMem_decodeLossy hcut.tail), List.map_append, List.map_map,
    List.map_map]
  congr 1
  · exact List.map_congr_left fun body _ => decodeLossy_append_lineFeed body
  · exact map_unfinished (fun _ => decodeLossy_eq_nil_iff) tail ending

end Utf8

namespace Session

/-- A session hears the parts that end with a line feed, and the unfinished one. -/
theorem heard_eq_cutAt (input : Bytes) (ending : Ending) :
    heard input ending = cutAt lineFeed input ending := by
  obtain ⟨bodies, tail, hcut⟩ := exists_cutsInto input
  rw [heard_eq hcut, hcut.whole, cutAt_flatMap hcut.body hcut.tail]
  cases ending with
  | broken reason => simp only [linesOf, unfinished, List.append_nil]
  | finished => simp only [linesOf, unfinished, List.isEmpty_iff]

theorem map_decodeLossy_heard (input : Bytes) (ending : Ending) :
    (heard input ending).map Utf8.decodeLossy = cutAt '\n' (Utf8.decodeLossy input) ending := by
  rw [heard_eq_cutAt, Utf8.cutAt_decodeLossy]

/-- The UTF-8 of the text of an input has lines of the same words. -/
theorem sameWords_heard (input : Bytes) (ending : Ending) :
    List.Forall₂ SameWords (heard input ending)
      (heard (Utf8.encode (Utf8.decodeLossy input)) ending) := by
  have hlines : (heard input ending).map Utf8.decodeLossy =
      (heard (Utf8.encode (Utf8.decodeLossy input)) ending).map Utf8.decodeLossy := by
    rw [map_decodeLossy_heard, map_decodeLossy_heard, Utf8.decodeLossy_encode]
  rw [← List.forall₂_eq_eq_eq, List.forall₂_map_left_iff, List.forall₂_map_right_iff] at hlines
  exact hlines.imp fun _ _ h => congrArg words h

/-- An input can be decoded before it is cut into lines.
1. The texts of the parts between its line feeds are the parts of its text between the line breaks.
2. A session hears the lines that are cut off at line feeds, and their texts are the lines that are
   cut off the text of the input, however it ends.
3. A session on the UTF-8 of that text puts out the same, leaves the same tree, ends in the same way
   and records the same, whatever the directory, the output, the tree and the moment. -/
theorem execute_decoded :
    (∀ input : Bytes, (input.splitOn lineFeed).map Utf8.decodeLossy =
        (Utf8.decodeLossy input).splitOn '\n') ∧
      (∀ input ending, heard input ending = cutAt lineFeed input ending ∧
        (heard input ending).map Utf8.decodeLossy =
          cutAt '\n' (Utf8.decodeLossy input) ending) ∧
      ∀ (dir : Text) (request : Request),
        let decoded := Utf8.encode (Utf8.decodeLossy request.input)
        (execute dir request).Alike (execute dir { request with input := decoded }) ∧
          (script request.input request.ending).ledger =
            (script decoded request.ending).ledger := by
  refine ⟨Utf8.splitOn_decodeLossy, fun input ending => ⟨heard_eq_cutAt input ending,
    map_decodeLossy_heard input ending⟩, fun dir request => ?_⟩
  have hwords := sameWords_heard request.input request.ending
  exact ⟨execute_alike dir request hwords, (script_congr hwords).2⟩

/-- A character that is broken off by a line feed, and one at the end of the input. -/
example : (heard [0xE2, 0x82, 0x0A, 0xF0, 0x9F] .finished).map Utf8.decodeLossy =
    [['\uFFFD', '\n'], ['\uFFFD']] := by
  decide +kernel

end Session

end Abacus
