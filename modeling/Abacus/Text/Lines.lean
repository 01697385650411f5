import Abacus.Text.Basic

/-!
# Lines

Where a text breaks into lines. A carriage return in front of a line feed belongs to the break.
`notMem_firstLine`: a line holds no break; `indentBreaks_eq_self`: a text without breaks is not set
in.
-/

namespace Abacus

/-- A text without a carriage return at its end. -/
def dropReturn (cs : Text) : Text :=
  if cs.getLast? = some '\r' then cs.dropLast else cs

/-- The first line of a text that goes on behind it. -/
def firstLine (cs : Text) : Text :=
  dropReturn (cs.takeWhile (· ≠ '\n'))

/-- A text whose lines below the first are set in. -/
def indentBreaks (width : Nat) (cs : Text) : Text :=
  cs.flatMap fun c => if c = '\n' then '\n' :: List.replicate width ' ' else [c]

theorem mem_of_mem_dropReturn {c : Char} {cs : Text} (h : c ∈ dropReturn cs) : c ∈ cs := by
  unfold dropReturn at h
  split at h
  · exact List.dropLast_subset cs h
  · exact h

/-- A line holds no break. -/
theorem notMem_firstLine (cs : Text) : '\n' ∉ firstLine cs := fun h => by
  have hall : (cs.takeWhile (· ≠ '\n')).all (· ≠ '\n') = true := List.all_takeWhile
  simpa using List.all_eq_true.1 hall _ (mem_of_mem_dropReturn h)

/-- A text without breaks is not set in. -/
theorem indentBreaks_eq_self {cs : Text} (h : '\n' ∉ cs) (width : Nat) :
    indentBreaks width cs = cs := by
  induction cs with
  | nil => rfl
  | cons c rest ih =>
    have hc : c ≠ '\n' := fun hc => h (hc ▸ List.mem_cons_self)
    have hrest := ih fun hmem => h (List.mem_cons_of_mem c hmem)
    unfold indentBreaks at hrest ⊢
    rw [List.flatMap_cons, if_neg hc, hrest, List.singleton_append]

end Abacus
