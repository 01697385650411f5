/-!
# Joining and cutting at a separator

Joined parts are found in the whole (`isInfix_intercalate`), with nothing but the separator between
them (`mem_or_of_mem_intercalate`). A list is cut into one part more than it has separators
(`length_splitOn`), and parts that hold no separator are cut off as they are (`splitOn_flatMap`).
-/

namespace Abacus

variable {α : Type} {separator : α} {bodies : List (List α)}

theorem notMem_append_append {a : α} {before inner after : List α} (hbefore : a ∉ before)
    (hinner : a ∉ inner) (hafter : a ∉ after) : a ∉ before ++ inner ++ after := by
  intro h
  rcases List.mem_append.1 h with h | h
  · rcases List.mem_append.1 h with h | h
    · exact hbefore h
    · exact hinner h
  · exact hafter h

/-- Between parts stands the separator and nothing else. -/
theorem mem_or_of_mem_intercalate {a : α} {between : List α} (h : a ∈ between.intercalate bodies) :
    a ∈ between ∨ ∃ body ∈ bodies, a ∈ body := by
  induction bodies with
  | nil => cases h
  | cons body bodies ih =>
    cases bodies with
    | nil =>
      rw [List.intercalate_singleton] at h
      exact .inr ⟨body, List.mem_cons_self, h⟩
    | cons next bodies =>
      rw [List.intercalate_cons_cons] at h
      rcases List.mem_append.1 h with h | h
      · rcases List.mem_append.1 h with h | h
        · exact .inr ⟨body, List.mem_cons_self, h⟩
        · exact .inl h
      · rcases ih h with h | ⟨other, hmem, ha⟩
        · exact .inl h
        · exact .inr ⟨other, List.mem_cons_of_mem body hmem, ha⟩

theorem intercalate_ne_nil {between : List α} (hbetween : between ≠ [])
    (hlength : 2 ≤ bodies.length) : between.intercalate bodies ≠ [] := by
  match bodies, hlength with
  | first :: second :: bodies, _ =>
    rw [List.intercalate_cons_cons]
    exact List.append_ne_nil_of_left_ne_nil (List.append_ne_nil_of_right_ne_nil first hbetween) _

theorem isInfix_intercalate {between body : List α} (h : body ∈ bodies) :
    body <:+: between.intercalate bodies := by
  induction bodies with
  | nil => cases h
  | cons first bodies ih =>
    cases bodies with
    | nil =>
      obtain rfl := List.mem_singleton.1 h
      exact ⟨[], [], by rw [List.intercalate_singleton, List.nil_append, List.append_nil]⟩
    | cons next bodies =>
      rw [List.intercalate_cons_cons]
      rcases List.mem_cons.1 h with rfl | h
      · rw [List.append_assoc]
        exact (List.prefix_append _ _).isInfix
      · exact (ih h).trans (List.suffix_append _ _).isInfix

/-- One part or more, each with a separator behind it, end with a separator. -/
theorem getLast?_flatMap (h : bodies ≠ []) :
    (bodies.flatMap (· ++ [separator])).getLast? = some separator := by
  obtain ⟨bodies, body, rfl⟩ := (List.eq_nil_or_concat bodies).resolve_left h
  simp

variable [BEq α]

theorem length_splitOn (separator : α) (whole : List α) :
    (whole.splitOn separator).length = whole.count separator + 1 := by
  induction whole with
  | nil => rfl
  | cons a whole ih =>
    rw [List.splitOn_cons_eq_if_modifyHead, List.count_cons]
    split
    · rw [List.length_cons, ih]
    · rw [List.length_modifyHead, ih]

variable [LawfulBEq α] {tail : List α}

/-- Parts that hold no separator are cut off one by one. -/
theorem splitOn_flatMap (hbody : ∀ body ∈ bodies, separator ∉ body) (htail : separator ∉ tail) :
    (bodies.flatMap (· ++ [separator]) ++ tail).splitOn separator = bodies ++ [tail] := by
  induction bodies with
  | nil => exact List.splitOn_eq_singleton htail
  | cons body bodies ih =>
    obtain ⟨hfirst, hbody⟩ := List.forall_mem_cons.1 hbody
    rw [List.flatMap_cons, List.append_assoc, List.append_assoc, List.singleton_append,
      List.splitOn_append_cons_self, List.splitOn_eq_singleton hfirst, ih hbody]
    rfl

end Abacus
