import Abacus.FileTree.Basic

/-!
# Growth of file trees

Whatever makes directories adds them one by one at vacant places on the way, so what one such step
keeps, all of them keep, also where making a directory fails: `FileTree.createDirectories_rel`. A
file is added at a vacant place, too: `FileTree.createFile_eq_ok`.
-/

namespace Abacus

namespace FileTree

/-! ## Vacancies -/

theorem vacancyIn_eq_ok {tree : FileTree} {dir place : Place} {name : Text}
    (h : tree.vacancyIn dir name = .ok place) :
    place = dir ++ [name] ∧ tree.node? place = none := by
  unfold vacancyIn at h
  split at h
  · cases h
  split at h
  · cases h
  split at h
  · cases h
  · next hnone =>
    cases h
    exact ⟨rfl, hnone⟩

/-- A vacancy is behind the last name, in the directory that the other names lead to. -/
theorem vacancy_eq_ok {tree : FileTree} {here place : Place} {names : List Text}
    (h : tree.vacancy here names = .ok place) :
    ∃ name dir, names.getLast? = some name ∧ tree.walk here names.dropLast = .ok dir ∧
      place = dir ++ [name] ∧ tree.node? place = none := by
  unfold vacancy at h
  split at h
  · cases h
  · next name hname =>
    split at h
    · next dir hdir => exact ⟨name, dir, hname, hdir, vacancyIn_eq_ok h⟩
    · cases h

/-! ## Names on the way -/

theorem prefix_dropStays (names : List Text) : Path.dropStays names <+: names := by
  rw [← List.reverse_suffix, Path.dropStays, List.reverse_reverse]
  exact List.dropWhile_suffix _

/-- The directory that holds the last of some names is on the way. -/
theorem prefix_parent (names : List Text) : Path.parent names <+: names :=
  (prefix_dropStays _).trans ((List.dropLast_prefix _).trans (prefix_dropStays names))

/-! ## Directories -/

section Directories

variable {R : FileTree → FileTree → Prop} {here : Place} {names : List Text}

theorem ensureDirectory_rel (hrefl : ∀ tree, R tree tree)
    (hadd : ∀ tree place front, front <+: names → tree.vacancy here front = .ok place →
      R tree (tree.add place .directory))
    {tree tree' : FileTree} {front : List Text} (hfront : front <+: names)
    (h : tree.ensureDirectory here front = .ok tree') : R tree tree' := by
  unfold ensureDirectory at h
  split at h
  · next made hmade =>
    cases h
    unfold makeDirectory at hmade
    cases hvacancy : tree.vacancy here front with
    | error fault => simp [hvacancy, Except.map] at hmade
    | ok place =>
      simp only [hvacancy, Except.map, Except.ok.injEq] at hmade
      exact hmade ▸ hadd tree place front hfront hvacancy
  · split at h
    · cases h
      exact hrefl tree
    · cases h

theorem ensureDirectories_rel (hrefl : ∀ tree, R tree tree)
    (htrans : ∀ {a b c}, R a b → R b c → R a c)
    (hadd : ∀ tree place front, front <+: names → tree.vacancy here front = .ok place →
      R tree (tree.add place .directory))
    (tree : FileTree) {front : List Text} (hfront : front <+: names) :
    R tree (tree.ensureDirectories here front).1 := by
  fun_induction ensureDirectories tree here front with
  | case1 front tree' h => exact ensureDirectory_rel hrefl hadd hfront h
  | case2 => exact hrefl _
  | case3 front h hne tree' fault h' ih =>
    simpa [h'] using ih ((prefix_parent front).trans hfront)
  | case4 front h hne tree' h' tree'' h'' ih =>
    have hparent := ih ((prefix_parent front).trans hfront)
    rw [h'] at hparent
    exact htrans hparent (ensureDirectory_rel hrefl hadd hfront h'')
  | case5 front h hne tree' h' fault h'' ih =>
    simpa [h'] using ih ((prefix_parent front).trans hfront)
  | case6 => exact hrefl _

end Directories

/-- What holds of a tree and itself, of three trees in a row and of one more directory on the way
holds of the tree before and behind the making of a directory with those on the way to it. -/
theorem createDirectories_rel {R : FileTree → FileTree → Prop} (hrefl : ∀ tree, R tree tree)
    (htrans : ∀ {a b c}, R a b → R b c → R a c) (tree : FileTree) (path : Text)
    (hadd : ∀ tree' place front, front <+: Path.names path →
      tree'.vacancy (tree.start path) front = .ok place → R tree' (tree'.add place .directory)) :
    R tree (tree.createDirectories path).1 := by
  unfold createDirectories
  split
  · exact hrefl tree
  · split
    · exact hrefl tree
    · exact ensureDirectories_rel hrefl htrans hadd tree List.prefix_rfl

/-! ## Files -/

/-- Making a file finds a vacancy and puts the file there. -/
theorem createFile_eq_ok {tree tree' : FileTree} {path : Text} {content : Bytes}
    (h : tree.createFile path content = .ok tree') :
    admits path = .ok () ∧ ∃ place,
      tree.vacancy (tree.start path) (Path.names path) = .ok place ∧
        tree' = tree.add place (.file content) := by
  unfold createFile at h
  split at h
  · cases h
  · next hadmits =>
    cases hvacancy : tree.vacancy (tree.start path) (Path.names path) with
    | error fault => simp [hvacancy, Except.map] at h
    | ok place =>
      simp only [hvacancy, Except.map, Except.ok.injEq] at h
      exact ⟨hadmits, place, rfl, h.symm⟩

end FileTree

end Abacus
