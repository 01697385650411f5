import Abacus.Proofs.Command.Runs
import Abacus.Proofs.Text.Lowercase
import Abacus.Proofs.Text.Spaced

/-!
# Names of commands as they are given

A text is brought to lower case by the rules of Unicode before it is compared with the names of the
commands. The names are words of ASCII without a k, so no character beyond ASCII has a part in one:
a text gives a name exactly if it spells it, letter by letter, with blanks around it
(`CommandName.ofText?_eq_some_iff`). `CommandName.parse_spelled` adds what becomes of other texts.
-/

namespace Abacus

/-- A text spells a word: it is the word up to the case of the letters of ASCII, with blanks around
it. -/
def Spells (text word : Text) : Prop :=
  ∃ front spelled back, text = front ++ (spelled ++ back) ∧ AllBlank front ∧ AllBlank back ∧
    SameLetters spelled word

/-- No blank is a letter. -/
theorem toLower_of_isBlank {c : Char} (h : isBlank c = true) : c.toLower = c := by
  refine dif_neg fun hcapital => ?_
  have hfirst : 0x41 ≤ c.toNat := UInt32.le_iff_toNat_le.1 hcapital.1
  have hlast : c.toNat ≤ 0x5A := UInt32.le_iff_toNat_le.1 hcapital.2
  simp only [isBlank, Bool.or_eq_true, Bool.and_eq_true, decide_eq_true_eq, beq_iff_eq] at h
  omega

namespace CommandName

/-! ## Spelled names -/

/-- The names are of small letters of ASCII, and there is no k among them. -/
theorem of_mem_text {name : CommandName} {c : Char} (h : c ∈ name.text) :
    c.toNat < 0x80 ∧ c ≠ 'k' ∧ c.toLower = c ∧ isBlank c = false := by
  have hall : (name.text.all fun d =>
      d.toNat < 0x80 ∧ d ≠ 'k' ∧ d.toLower = d ∧ isBlank d = false) = true := by
    cases name with
    | calculator => decide
    | menu => decide
  exact of_decide_eq_true (List.all_eq_true.1 hall c h)

theorem map_toLower_text (name : CommandName) : name.text.map Char.toLower = name.text :=
  (List.map_congr_left fun _ hc => (of_mem_text hc).2.2.1).trans (List.map_id' name.text)

/-- The names can be told apart by their lower case, and this is compared. -/
theorem ofText?_eq_some_iff_lowercase {text : Text} {name : CommandName} :
    ofText? text = some name ↔ lowercase (trim text) = name.text := by
  have hne : calculator.text ≠ menu.text := by decide
  simp only [ofText?]
  cases name with
  | calculator => by_cases h : lowercase (trim text) = menu.text <;> simp [h, hne.symm]
  | menu => by_cases h : lowercase (trim text) = calculator.text <;> simp [h, hne]

theorem sameLetters_text_iff {word : Text} {name : CommandName} :
    SameLetters word name.text ↔ lowercase word = name.text := by
  rw [lowercase_eq_iff fun c hc => ⟨(of_mem_text hc).1, (of_mem_text hc).2.1⟩, SameLetters,
    map_toLower_text]

/-- What spells a name without blanks around it is a word. -/
theorem isWord_of_sameLetters {word : Text} {name : CommandName}
    (h : SameLetters word name.text) : IsWord word := by
  rw [SameLetters, map_toLower_text] at h
  refine ⟨?_, fun c hc => Bool.eq_false_iff.2 fun hblank => ?_⟩
  · rintro rfl
    cases name <;> cases h
  · have hmem : c.toLower ∈ name.text := h ▸ List.mem_map_of_mem hc
    rw [toLower_of_isBlank hblank] at hmem
    exact Bool.false_ne_true ((of_mem_text hmem).2.2.2.symm.trans hblank)

/-- A text gives the name that it spells. -/
theorem ofText?_eq_some_iff {text : Text} {name : CommandName} :
    ofText? text = some name ↔ Spells text name.text := by
  rw [ofText?_eq_some_iff_lowercase]
  constructor
  · intro h
    obtain ⟨front, back, htext, hfront, hback⟩ := exists_trim text
    exact ⟨front, trim text, back, htext, hfront, hback, sameLetters_text_iff.2 h⟩
  · rintro ⟨front, word, back, rfl, hfront, hback, hword⟩
    rw [trim_around hfront (isWord_of_sameLetters hword) hback]
    exact sameLetters_text_iff.1 hword

theorem ofText?_eq_none_iff {text : Text} :
    ofText? text = none ↔ ∀ name : CommandName, ¬Spells text name.text := by
  simp only [Option.eq_none_iff_forall_ne_some, ne_eq, ofText?_eq_some_iff]

/-- A text that spells a name has nothing but blanks and ASCII. -/
theorem isBlank_or_ascii_of_spells {text : Text} {name : CommandName} (h : Spells text name.text)
    {c : Char} (hc : c ∈ text) : isBlank c = true ∨ c.toNat < 0x80 := by
  obtain ⟨front, word, back, rfl, hfront, hback, hword⟩ := h
  rw [SameLetters, map_toLower_text] at hword
  have hascii : IsAscii word := isAscii_of_map_toLower fun d hd => (of_mem_text (hword ▸ hd)).1
  rcases List.mem_append.1 hc with hc | hc
  · exact .inl (hfront c hc)
  · rcases List.mem_append.1 hc with hc | hc
    · exact .inr (hascii c hc)
    · exact .inl (hback c hc)

/-! ## Names and errors -/

theorem parse_eq_ok_iff {text : Text} {name : CommandName} :
    parse text = .ok name ↔ ofText? text = some name := by
  rw [parse]
  cases ofText? text <;> simp

theorem parse_eq_error_iff {text : Text} {error : CommandError} :
    parse text = .error error ↔ error = .unknown text ∧ ofText? text = none := by
  rw [parse]
  cases ofText? text <;> simp [eq_comm]

theorem execute_eq_unknown_iff (registry : Registry) (text : Text) (request : Request)
    (unknown : Text) :
    (registry.execute text request).result = .error (.unknown unknown) ↔
      unknown = text ∧ ofText? text = none := by
  cases htext : ofText? text with
  | none => simp [Registry.execute_of_unknown request htext, Registry.refuse, eq_comm]
  | some name =>
    cases hfind : registry.find name with
    | none => simp [Registry.execute_of_not_registered request htext hfind, Registry.refuse]
    | some handler =>
      rw [Registry.execute_of_registered request htext hfind,
        (Registry.answers_runHandler registry name handler request).error_iff]
      simp

/-- What a text gives that is read as the name of a command.
1. It gives a name exactly if it spells the name: if the text without the blanks at its ends is the
   name, letters of ASCII being compared whatever their case and all other characters as they are.
2. Every other text fails, and the error holds the text as it is.
3. So a character beyond ASCII that is no blank is in no name, whatever its lower case.
4. A registry reports an unknown name for these texts and for no others, whatever it holds. -/
theorem parse_spelled (text : Text) :
    (∀ name, parse text = .ok name ↔ Spells text name.text) ∧
      (∀ error, parse text = .error error ↔
        error = .unknown text ∧ ∀ name : CommandName, ¬Spells text name.text) ∧
      (∀ c ∈ text, isBlank c = false → 0x80 ≤ c.toNat → parse text = .error (.unknown text)) ∧
      ∀ (registry : Registry) (request : Request) (unknown : Text),
        (registry.execute text request).result = .error (.unknown unknown) ↔
          unknown = text ∧ ∀ name : CommandName, ¬Spells text name.text := by
  refine ⟨fun name => parse_eq_ok_iff.trans ofText?_eq_some_iff, fun error => ?_,
    fun c hc hblank hbeyond => ?_, fun registry request unknown => ?_⟩
  · rw [parse_eq_error_iff, ofText?_eq_none_iff]
  · rw [parse_eq_error_iff, ofText?_eq_none_iff]
    refine ⟨rfl, fun name h => ?_⟩
    rcases isBlank_or_ascii_of_spells h hc with hblank' | hascii
    · exact Bool.false_ne_true (hblank.symm.trans hblank')
    · omega
  · rw [execute_eq_unknown_iff, ofText?_eq_none_iff]

/-- Two spaces that are not those of ASCII; a dotted capital, whose lower case begins with an i. -/
theorem parse_spelled_beyond :
    parse "\u2003mENu\u00A0".toList = .ok .menu ∧
      parse "\u0130menu".toList = .error (.unknown "\u0130menu".toList) := by
  have hletters : SameLetters "mENu".toList menu.text := by
    unfold SameLetters
    decide
  have hspelled : Spells "\u2003mENu\u00A0".toList menu.text :=
    ⟨['\u2003'], "mENu".toList, ['\u00A0'], by decide, List.forall_mem_singleton.2 rfl,
      List.forall_mem_singleton.2 rfl, hletters⟩
  exact ⟨((parse_spelled "\u2003mENu\u00A0".toList).1 .menu).2 hspelled,
    (parse_spelled "\u0130menu".toList).2.2.1 '\u0130' (by decide) (by decide) (by decide)⟩

end CommandName

end Abacus
