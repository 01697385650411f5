import Abacus.Text.Blank

/-!
# Words and what is between them

A text is spaced by a list of words if it is made of these words in order, with blanks in front,
behind and between them. `words_eq_iff`: every text is spaced by exactly one list, its words. So
blanks can be exchanged for other blanks (`words_between`) and added at the ends (`words_around`).
A text without the blanks at its ends is what stands between them: `exists_trim`, `trim_around`.
-/

namespace Abacus

def AllBlank (gap : Text) : Prop :=
  ∀ c ∈ gap, isBlank c = true

def IsWord (word : Text) : Prop :=
  word ≠ [] ∧ ∀ c ∈ word, isBlank c = false

/-- A text is made of words in order, with blanks around them; a word ends the text or has a blank
behind it. -/
inductive Spaced : Text → List Text → Prop where
  | blanks {gap : Text} (hgap : AllBlank gap) : Spaced gap []
  | word {gap word rest : Text} {ws : List Text} (hgap : AllBlank gap) (hword : IsWord word)
      (hnext : ∀ c ∈ rest.head?, isBlank c = true) (h : Spaced rest ws) :
      Spaced (gap ++ (word ++ rest)) (word :: ws)

/-! ## Words -/

theorem words_nil : words [] = [] := by
  rw [words, runs]

theorem words_cons_of_isBlank {c : Char} (hc : isBlank c = true) (rest : Text) :
    words (c :: rest) = words rest := by
  have h := words_append_cons hc [] rest
  rwa [words_nil] at h

theorem words_append_of_allBlank {gap : Text} (hgap : AllBlank gap) (rest : Text) :
    words (gap ++ rest) = words rest := by
  induction gap with
  | nil => rfl
  | cons c gap ih =>
    obtain ⟨hc, hgap⟩ := List.forall_mem_cons.1 hgap
    rw [List.cons_append, words_cons_of_isBlank hc, ih hgap]

theorem words_eq_nil {gap : Text} (hgap : AllBlank gap) : words gap = [] := by
  have h := words_append_of_allBlank hgap []
  rwa [List.append_nil, words_nil] at h

theorem words_word_append {word rest : Text} (hword : IsWord word)
    (hnext : ∀ c ∈ rest.head?, isBlank c = true) : words (word ++ rest) = word :: words rest := by
  have hsingle := words_eq_singleton hword.1 hword.2
  cases rest with
  | nil => rw [List.append_nil, hsingle, words_nil]
  | cons c rest =>
    have hc := hnext c rfl
    rw [words_append_cons hc, words_cons_of_isBlank hc, hsingle, List.singleton_append]

/-! ## Spaced texts -/

namespace Spaced

theorem words_eq {text : Text} {ws : List Text} (h : Spaced text ws) : words text = ws := by
  induction h with
  | blanks hgap => exact words_eq_nil hgap
  | word hgap hword hnext _ ih =>
    rw [words_append_of_allBlank hgap, words_word_append hword hnext, ih]

theorem cons_blank {c : Char} (hc : isBlank c = true) {text : Text} {ws : List Text}
    (h : Spaced text ws) : Spaced (c :: text) ws := by
  cases h with
  | blanks hgap => exact blanks (List.forall_mem_cons.2 ⟨hc, hgap⟩)
  | @word gap word rest ws hgap hword hnext h =>
    exact Spaced.word (List.forall_mem_cons.2 ⟨hc, hgap⟩) hword hnext h

end Spaced

/-- A text is spaced by its words. -/
theorem spaced_words (text : Text) : Spaced text (words text) := by
  unfold words
  fun_induction runs isWordChar text with
  | case1 => exact .blanks fun _ hc => absurd hc List.not_mem_nil
  | case2 c rest hc ih =>
    have hword : IsWord (c :: rest.takeWhile isWordChar) := by
      refine ⟨List.cons_ne_nil _ _, List.forall_mem_cons.2 ⟨?_, fun d hd => ?_⟩⟩
      · simpa [isWordChar] using hc
      · simpa [isWordChar] using List.all_eq_true.1 List.all_takeWhile d hd
    have hnext : ∀ d ∈ (rest.dropWhile isWordChar).head?, isBlank d = true := by
      intro d hd
      have hfirst := List.head?_dropWhile_not isWordChar rest
      rw [Option.mem_def.1 hd] at hfirst
      simpa [isWordChar] using hfirst
    have hspaced := Spaced.word (fun _ hd => absurd hd List.not_mem_nil) hword hnext ih
    rwa [List.nil_append, List.cons_append, List.takeWhile_append_dropWhile] at hspaced
  | case3 c rest hc ih =>
    refine ih.cons_blank ?_
    simpa [isWordChar] using hc

/-- Every text is spaced by one list of words. -/
theorem words_eq_iff {text : Text} {ws : List Text} : words text = ws ↔ Spaced text ws := by
  constructor
  · rintro rfl
    exact spaced_words text
  · exact Spaced.words_eq

/-! ## Exchanging blanks -/

/-- Blanks between two parts of a text can be exchanged for any other blanks. -/
theorem words_between {gap : Text} (hgap : AllBlank gap) (hne : gap ≠ []) (before after : Text) :
    words (before ++ (gap ++ after)) = words before ++ words after := by
  obtain ⟨c, rest, rfl⟩ := List.exists_cons_of_ne_nil hne
  obtain ⟨hc, hrest⟩ := List.forall_mem_cons.1 hgap
  rw [List.cons_append, words_append_cons hc, words_append_of_allBlank hrest]

/-- Blanks at the ends of a text change none of its words. -/
theorem words_around {front back : Text} (hfront : AllBlank front) (hback : AllBlank back)
    (text : Text) : words (front ++ (text ++ back)) = words text := by
  rw [words_append_of_allBlank hfront]
  cases back with
  | nil => rw [List.append_nil]
  | cons c back =>
    have h := words_between hback (List.cons_ne_nil c back) text []
    rwa [List.append_nil, words_nil, List.append_nil] at h

/-! ## The ends of a text -/

theorem allBlank_takeWhile (cs : Text) : AllBlank (cs.takeWhile isBlank) := fun c hc =>
  List.all_eq_true.1 List.all_takeWhile c hc

theorem trimFront_append {gap : Text} (hgap : AllBlank gap) (rest : Text) :
    trimFront (gap ++ rest) = trimFront rest :=
  List.dropWhile_append_of_pos hgap

theorem trimFront_word_append {word : Text} (hword : IsWord word) (rest : Text) :
    trimFront (word ++ rest) = word ++ rest := by
  obtain ⟨c, cs, rfl⟩ := List.exists_cons_of_ne_nil hword.1
  have hc := hword.2 c List.mem_cons_self
  rw [trimFront, List.cons_append, List.dropWhile_cons_of_neg (by simp [hc])]

/-- A text has its blanks at the ends around the rest of it. -/
theorem exists_trim (text : Text) :
    ∃ front back, text = front ++ (trim text ++ back) ∧ AllBlank front ∧ AllBlank back := by
  let behind := (trimFront text).reverse
  refine ⟨text.takeWhile isBlank, (behind.takeWhile isBlank).reverse, ?_, allBlank_takeWhile text,
    fun c hc => allBlank_takeWhile behind c (List.mem_reverse.1 hc)⟩
  have hback : trim text ++ (behind.takeWhile isBlank).reverse = trimFront text := by
    rw [trim, trimFront, ← List.reverse_append, List.takeWhile_append_dropWhile,
      List.reverse_reverse]
  rw [hback, trimFront, List.takeWhile_append_dropWhile]

/-- A word is what is left of it and of blanks around it. -/
theorem trim_around {front word back : Text} (hfront : AllBlank front) (hword : IsWord word)
    (hback : AllBlank back) : trim (front ++ (word ++ back)) = word := by
  have hback' : AllBlank back.reverse := fun c hc => hback c (List.mem_reverse.1 hc)
  have hword' : IsWord word.reverse :=
    ⟨mt List.reverse_eq_nil_iff.1 hword.1, fun c hc => hword.2 c (List.mem_reverse.1 hc)⟩
  have hend := trimFront_word_append hword' []
  rw [List.append_nil] at hend
  rw [trim, trimFront_append hfront, trimFront_word_append hword, List.reverse_append,
    trimFront_append hback', hend, List.reverse_reverse]

end Abacus
