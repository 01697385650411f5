import Abacus.Session

/-!
# Lines of an input

`CutsInto` says what the lines of an input are without cutting it: bodies that hold no line feed,
each with one behind it, and a tail that holds none. Every input is cut in just one way
(`exists_cutsInto`), and the lines that a session hears are those: `heard_eq`.
-/

namespace Abacus.Session

/-- An input is some bodies of lines, a line feed behind each, and a tail. -/
structure CutsInto (input : Bytes) (bodies : List Bytes) (tail : Bytes) : Prop where
  whole : input = bodies.flatMap (· ++ [lineFeed]) ++ tail
  body : ∀ body ∈ bodies, lineFeed ∉ body
  tail : lineFeed ∉ tail

instance (input : Bytes) (bodies : List Bytes) (tail : Bytes) :
    Decidable (CutsInto input bodies tail) :=
  decidable_of_iff
    (input = bodies.flatMap (· ++ [lineFeed]) ++ tail ∧ (∀ body ∈ bodies, lineFeed ∉ body) ∧
      lineFeed ∉ tail)
    ⟨fun ⟨hwhole, hbody, htail⟩ => ⟨hwhole, hbody, htail⟩, fun h => ⟨h.whole, h.body, h.tail⟩⟩

/-- The lines of an input: the whole ones and, where the input ends and is not broken off, a tail
that is not empty. -/
def linesOf (bodies : List Bytes) (tail : Bytes) : Ending → List Bytes
  | .finished => bodies.map (· ++ [lineFeed]) ++ if tail = [] then [] else [tail]
  | .broken _ => bodies.map (· ++ [lineFeed])

theorem exists_cutsInto (input : Bytes) : ∃ bodies tail, CutsInto input bodies tail := by
  induction input with
  | nil => exact ⟨[], [], rfl, by simp, by simp⟩
  | cons b rest ih =>
    obtain ⟨bodies, tail, hwhole, hbody, htail⟩ := ih
    by_cases hb : b = lineFeed
    · refine ⟨[] :: bodies, tail, ?_, ?_, htail⟩
      · rw [hb, hwhole]
        rfl
      · intro body hmem
        rcases List.mem_cons.1 hmem with rfl | hmem
        · exact List.not_mem_nil
        · exact hbody body hmem
    · have hcons : ∀ body : Bytes, lineFeed ∉ body → lineFeed ∉ b :: body := by
        intro body hnone hmem
        rcases List.mem_cons.1 hmem with rfl | hmem
        · exact hb rfl
        · exact hnone hmem
      -- The byte goes to the first body, or to the tail if there is no body.
      cases bodies with
      | nil => exact ⟨[], b :: tail, by rw [hwhole]; rfl, by simp, hcons tail htail⟩
      | cons first bodies =>
        refine ⟨(b :: first) :: bodies, tail, by rw [hwhole]; rfl, ?_, htail⟩
        intro body hmem
        rcases List.mem_cons.1 hmem with rfl | hmem
        · exact hcons first (hbody first List.mem_cons_self)
        · exact hbody body (List.mem_cons_of_mem first hmem)

/-! ## Cutting -/

/-- Bytes without a line feed go on with the line under way. -/
theorem cutLines_tail (under : Bytes) {tail : Bytes} (h : lineFeed ∉ tail) :
    cutLines under tail = ([], under.reverse ++ tail) := by
  induction tail generalizing under with
  | nil => rw [cutLines, List.append_nil]
  | cons b tail ih =>
    have hb : b ≠ lineFeed := fun hb => h (hb ▸ List.mem_cons_self)
    rw [cutLines, if_neg hb, ih _ fun hmem => h (List.mem_cons_of_mem b hmem)]
    simp

theorem cutLines_body (under : Bytes) {body : Bytes} (h : lineFeed ∉ body) (rest : Bytes) :
    cutLines under (body ++ lineFeed :: rest) =
      ((under.reverse ++ body ++ [lineFeed]) :: (cutLines [] rest).1, (cutLines [] rest).2) := by
  induction body generalizing under with
  | nil => simp [cutLines]
  | cons b body ih =>
    have hb : b ≠ lineFeed := fun hb => h (hb ▸ List.mem_cons_self)
    rw [List.cons_append, cutLines, if_neg hb, ih _ fun hmem => h (List.mem_cons_of_mem b hmem)]
    simp

/-- Whole lines are cut off one by one, whatever is behind them. -/
theorem cutLines_bodies {bodies : List Bytes} (hbody : ∀ body ∈ bodies, lineFeed ∉ body)
    (rest : Bytes) :
    cutLines [] (bodies.flatMap (· ++ [lineFeed]) ++ rest) =
      (bodies.map (· ++ [lineFeed]) ++ (cutLines [] rest).1, (cutLines [] rest).2) := by
  induction bodies with
  | nil => rfl
  | cons body bodies ih =>
    have hrest := ih fun other hmem => hbody other (List.mem_cons_of_mem body hmem)
    rw [List.flatMap_cons, List.append_assoc, List.append_assoc, List.singleton_append,
      cutLines_body [] (hbody body List.mem_cons_self), hrest]
    rfl

theorem heard_append {bodies : List Bytes} (hbody : ∀ body ∈ bodies, lineFeed ∉ body)
    (rest : Bytes) (ending : Ending) :
    heard (bodies.flatMap (· ++ [lineFeed]) ++ rest) ending =
      bodies.map (· ++ [lineFeed]) ++ heard rest ending := by
  have hcut := cutLines_bodies hbody rest
  cases ending with
  | broken reason => simp only [heard, hcut]
  | finished =>
    simp only [heard, hcut]
    split
    · rfl
    · rw [List.append_assoc]

/-- A session hears the lines of its input. -/
theorem heard_eq {input : Bytes} {bodies : List Bytes} {tail : Bytes}
    (h : CutsInto input bodies tail) (ending : Ending) :
    heard input ending = linesOf bodies tail ending := by
  have htail := cutLines_tail [] h.tail
  rw [h.whole, heard_append h.body]
  cases ending with
  | broken reason => simp only [heard, htail, linesOf, List.append_nil]
  | finished =>
    simp only [heard, htail, linesOf]
    rfl

end Abacus.Session
