import Abacus.Text.Basic

/-!
# Runs

A text cut into the maximal runs of the characters of a kind; the characters between are dropped.
`runs_append_cons`: a character of another kind separates. `runs_eq_singleton`: a text of the kind
alone is one run. `ne_nil_of_mem_runs` and `of_mem_runs`: a run is not empty and holds nothing else.
-/

namespace Abacus

theorem length_dropWhile_le (p : Char → Bool) (cs : Text) : (cs.dropWhile p).length ≤ cs.length :=
  (List.dropWhile_sublist p).length_le

theorem takeWhile_append_cons {p : Char → Bool} {c : Char} (hc : p c = false) (x y : Text) :
    (x ++ c :: y).takeWhile p = x.takeWhile p := by
  induction x with
  | nil => simp [hc]
  | cons d x ih => cases hd : p d <;> simp [hd, ih]

theorem dropWhile_append_cons {p : Char → Bool} {c : Char} (hc : p c = false) (x y : Text) :
    (x ++ c :: y).dropWhile p = x.dropWhile p ++ c :: y := by
  induction x with
  | nil => simp [hc]
  | cons d x ih => cases hd : p d <;> simp [hd, ih]

/-- The maximal runs of characters that satisfy `p`, in order. -/
def runs (p : Char → Bool) : Text → List Text
  | [] => []
  | c :: rest =>
    if p c then
      (c :: rest.takeWhile p) :: runs p (rest.dropWhile p)
    else
      runs p rest
termination_by cs => cs.length
decreasing_by
  · have := length_dropWhile_le p rest
    simp only [List.length_cons]
    omega
  · simp

/-- A character of another kind separates runs. -/
theorem runs_append_cons {p : Char → Bool} {c : Char} (hc : p c = false) (x y : Text) :
    runs p (x ++ c :: y) = runs p x ++ runs p y := by
  fun_induction runs p x with
  | case1 => simp [runs, hc]
  | case2 d rest hd ih =>
    rw [List.cons_append, runs, if_pos hd, takeWhile_append_cons hc, dropWhile_append_cons hc, ih,
      List.cons_append]
  | case3 d rest hd ih => rw [List.cons_append, runs, if_neg hd, ih]

/-- A text of the kind alone is one run. -/
theorem runs_eq_singleton {p : Char → Bool} {cs : Text} (hne : cs ≠ []) (h : ∀ c ∈ cs, p c) :
    runs p cs = [cs] := by
  obtain ⟨d, rest, rfl⟩ := List.exists_cons_of_ne_nil hne
  have hrest : ∀ c ∈ rest, p c := fun c hc => h c (List.mem_cons_of_mem d hc)
  have htake : (rest ++ []).takeWhile p = rest ++ [] := List.takeWhile_append_of_pos hrest
  have hdrop : (rest ++ []).dropWhile p = [] := List.dropWhile_append_of_pos hrest
  rw [List.append_nil] at htake hdrop
  rw [runs, if_pos (h d List.mem_cons_self), htake, hdrop, runs]

/-- No run is empty. -/
theorem ne_nil_of_mem_runs {p : Char → Bool} {cs run : Text} (h : run ∈ runs p cs) : run ≠ [] := by
  fun_induction runs p cs with
  | case1 => simp at h
  | case2 c rest _ ih =>
    rcases List.mem_cons.1 h with rfl | h
    · simp
    · exact ih h
  | case3 c rest _ ih => exact ih h

/-- A run holds characters of the kind alone. -/
theorem of_mem_runs {p : Char → Bool} {cs run : Text} (h : run ∈ runs p cs) : ∀ c ∈ run, p c := by
  fun_induction runs p cs with
  | case1 => simp at h
  | case2 d rest hd ih =>
    rcases List.mem_cons.1 h with rfl | h
    · intro c hc
      rcases List.mem_cons.1 hc with rfl | hc
      · exact hd
      · exact List.all_eq_true.1 List.all_takeWhile c hc
    · exact ih h
  | case3 d rest _ ih => exact ih h

end Abacus
