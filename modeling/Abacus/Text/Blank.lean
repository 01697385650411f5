import Abacus.Text.Runs

/-!
# Blanks and words

The blanks are the characters with the Unicode property White_Space. A word of a text is a
maximal run of characters that are not blank. `words_append_cons`: a blank only separates words.
`words_eq_singleton`: a text without blanks is one word.
-/

namespace Abacus

/-- Has the property White_Space. -/
def isBlank (c : Char) : Bool :=
  let n := c.toNat
  (0x09 ≤ n && n ≤ 0x0D) || n == 0x20 || n == 0x85 || n == 0xA0 || n == 0x1680 ||
    (0x2000 ≤ n && n ≤ 0x200A) || n == 0x2028 || n == 0x2029 || n == 0x202F || n == 0x205F ||
    n == 0x3000

/-- Is part of a word. -/
def isWordChar (c : Char) : Bool :=
  !isBlank c

/-- The words of a text, in order. -/
def words (cs : Text) : List Text :=
  runs isWordChar cs

/-- A text without the blanks at its front. -/
def trimFront (cs : Text) : Text :=
  cs.dropWhile isBlank

/-- A text without the blanks at its two ends. -/
def trim (cs : Text) : Text :=
  (trimFront (trimFront cs).reverse).reverse

/-- A blank separates words and is part of none. -/
theorem words_append_cons {c : Char} (hc : isBlank c = true) (x y : Text) :
    words (x ++ c :: y) = words x ++ words y :=
  runs_append_cons (by rw [isWordChar, hc]; rfl) x y

/-- A text without blanks is one word. -/
theorem words_eq_singleton {cs : Text} (hne : cs ≠ []) (h : ∀ c ∈ cs, isBlank c = false) :
    words cs = [cs] :=
  runs_eq_singleton hne fun c hc => by rw [isWordChar, h c hc]; rfl

/-- A word is not empty and holds no blank. -/
theorem of_mem_words {cs word : Text} (h : word ∈ words cs) :
    word ≠ [] ∧ ∀ c ∈ word, isBlank c = false :=
  ⟨ne_nil_of_mem_runs h, fun c hc => by simpa [isWordChar] using of_mem_runs h c hc⟩

end Abacus
