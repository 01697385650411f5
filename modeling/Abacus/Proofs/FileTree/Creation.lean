import Abacus.FileTree.Growth
import Abacus.Proofs.History.Writing
import Abacus.Save

/-!
# Files that come into being

What a tree holds after a creation. Making directories adds no file (`addsDirectories_create`),
making a file adds just that one, to which its path leads (`createFile_placeOf?`), and a save does
both: `addsFile_save`. On a disk that runs out of room the file of a save stays, with the first
bytes of the history: `saveOn_of_lt`.
-/

namespace Abacus.FileTree

/-- The content of the file at a place. -/
def file? (tree : FileTree) (place : Place) : Option Bytes :=
  match tree.node? place with
  | some (.file content) => some content
  | _ => none

/-- The place that a path leads to: its last name in the directory of the others. -/
def placeOf? (tree : FileTree) (path : Text) : Option Place :=
  match admits path, (Path.names path).getLast? with
  | .ok (), some name =>
    (tree.walk (tree.start path) (Path.names path).dropLast).toOption.map (· ++ [name])
  | _, _ => none

/-- One tree comes from another by further directories. -/
structure AddsDirectories (old new : FileTree) : Prop where
  workplace : new.workplace = old.workplace
  files : ∀ place, new.file? place = old.file? place
  kept : ∀ place node, old.node? place = some node → new.node? place = some node

/-- One tree comes from another by a file at a place where there was nothing, and perhaps by
further directories. -/
structure AddsFile (old new : FileTree) (place : Place) (content : Bytes) : Prop where
  vacant : old.node? place = none
  files : ∀ other, new.file? other = if other = place then some content else old.file? other
  kept : ∀ other node, old.node? other = some node → new.node? other = some node

/-! ## One node more -/

theorem node?_add {tree : FileTree} {place : Place} (h : tree.node? place = none) (node : Node)
    (other : Place) :
    (tree.add place node).node? other = if other = place then some node else tree.node? other := by
  unfold node? at h ⊢
  split at h
  · cases h
  · next hne =>
    by_cases hroot : other = []
    · rw [if_pos hroot, if_pos hroot, if_neg fun hplace : other = place => hne (hplace ▸ hroot)]
    · rw [if_neg hroot, if_neg hroot, add, List.lookup_append]
      by_cases hplace : other = place
      · rw [if_pos hplace, hplace, h, Option.none_or, List.lookup_cons_self]
      · rw [if_neg hplace, List.lookup_cons, beq_false_of_ne hplace, List.lookup_nil,
          Option.or_none]

theorem kept_add {tree : FileTree} {place : Place} (h : tree.node? place = none) (node : Node) :
    ∀ other old, tree.node? other = some old → (tree.add place node).node? other = some old := by
  intro other old hold
  have hne : other ≠ place := by
    rintro rfl
    rw [h] at hold
    cases hold
  rw [node?_add h, if_neg hne, hold]

theorem addsDirectories_add {tree : FileTree} {place : Place} (h : tree.node? place = none) :
    AddsDirectories tree (tree.add place .directory) := by
  refine ⟨rfl, fun other => ?_, kept_add h .directory⟩
  simp only [file?, node?_add h]
  by_cases hplace : other = place
  · rw [if_pos hplace, hplace, h]
  · rw [if_neg hplace]

theorem addsFile_add {tree : FileTree} {place : Place} (h : tree.node? place = none)
    (content : Bytes) : AddsFile tree (tree.add place (.file content)) place content := by
  refine ⟨h, fun other => ?_, kept_add h (.file content)⟩
  simp only [file?, node?_add h]
  by_cases hplace : other = place
  · rw [if_pos hplace, if_pos hplace]
  · rw [if_neg hplace, if_neg hplace]

/-! ## Creation -/

/-- Making a directory and those on the way to it adds no file. -/
theorem addsDirectories_create (tree : FileTree) (path : Text) :
    AddsDirectories tree (tree.createDirectories path).1 := by
  refine createDirectories_rel ?_ ?_ tree path ?_
  · exact fun tree => ⟨rfl, fun _ => rfl, fun _ _ h => h⟩
  · intro a b c hab hbc
    refine ⟨hbc.workplace.trans hab.workplace, fun place => ?_, fun place node h => ?_⟩
    · rw [hbc.files, hab.files]
    · exact hbc.kept place node (hab.kept place node h)
  · intro tree place front _ hvacancy
    obtain ⟨_, _, _, _, _, hnone⟩ := vacancy_eq_ok hvacancy
    exact addsDirectories_add hnone

/-- Names lead where they led, as long as the directories on the way are there. -/
theorem walk_of_kept {old new : FileTree}
    (h : ∀ place node, old.node? place = some node → new.node? place = some node)
    {here there : Place} {names : List Text} (hwalk : old.walk here names = .ok there) :
    new.walk here names = .ok there := by
  induction names generalizing here with
  | nil => exact hwalk
  | cons name names ih =>
    rw [walk] at hwalk ⊢
    split at hwalk
    · next hstay => exact (if_pos hstay).trans (ih hwalk)
    next hstay =>
    rw [if_neg hstay]
    split at hwalk
    · next hup => exact (if_pos hup).trans (ih hwalk)
    next hup =>
    rw [if_neg hup]
    split at hwalk
    · cases hwalk
    next hlong =>
    rw [if_neg hlong]
    split at hwalk
    · cases hwalk
    · cases hwalk
    · next hnode =>
      rw [h _ _ hnode]
      exact ih hwalk

/-- A new file is put where there was nothing, and its path leads to it. -/
theorem createFile_placeOf? {tree tree' : FileTree} {path : Text} {content : Bytes}
    (h : tree.createFile path content = .ok tree') :
    ∃ place, tree'.placeOf? path = some place ∧ tree.node? place = none ∧
      tree' = tree.add place (.file content) := by
  obtain ⟨hadmits, place, hvacancy, rfl⟩ := createFile_eq_ok h
  obtain ⟨name, dir, hname, hdir, hplace, hnone⟩ := vacancy_eq_ok hvacancy
  refine ⟨place, ?_, hnone, rfl⟩
  have hwalk := walk_of_kept (kept_add hnone (.file content)) hdir
  simp only [placeOf?, hadmits, hname]
  rw [show (tree.add place (.file content)).start path = tree.start path from rfl, hwalk, hplace]
  rfl

/-- A file is made with any content, or for one reason with none. -/
theorem createFile_congr {tree : FileTree} {path : Text} (content content' : Bytes) :
    (∃ fault, tree.createFile path content = .error fault ∧
        tree.createFile path content' = .error fault) ∨
      ∃ made made', tree.createFile path content = .ok made ∧
        tree.createFile path content' = .ok made' := by
  unfold createFile
  cases admits path with
  | error fault => exact .inl ⟨fault, rfl, rfl⟩
  | ok _ =>
    cases tree.vacancy (tree.start path) (Path.names path) with
    | error fault => exact .inl ⟨fault, rfl, rfl⟩
    | ok place => exact .inr ⟨_, _, rfl, rfl⟩

/-- A file in a directory that was made for it is the one file that is new. -/
theorem addsFile_createFile {tree made : FileTree} {dir path : Text} {content : Bytes}
    (h : (tree.createDirectories dir).1.createFile path content = .ok made) :
    ∃ place, made.placeOf? path = some place ∧ AddsFile tree made place content := by
  have hgrown := addsDirectories_create tree dir
  obtain ⟨place, hplace, hnone, rfl⟩ := createFile_placeOf? h
  have hadds := addsFile_add hnone content
  refine ⟨place, hplace, ?_, fun other => ?_, fun other node hnode => ?_⟩
  -- Nothing was at the place behind the directories, so nothing was there before them.
  · cases hnode : tree.node? place with
    | none => rfl
    | some node => exact (hgrown.kept place node hnode).symm.trans hnone
  · rw [hadds.files, hgrown.files]
  · exact hadds.kept other node (hgrown.kept other node hnode)

/-! ## Saves -/

/-- What a save does: first the directories, then the file with the whole history. -/
theorem save_eq (tree : FileTree) (dir : Text) (records : List Record) (now : Timestamp) :
    tree.save dir records now =
      match tree.createDirectories dir with
      | (grown, .error fault) => (grown, .error (.directory dir fault))
      | (grown, .ok ()) =>
        match grown.createFile (savePath dir now) (History.bytes records) with
        | .error fault => (grown, .error (.file (savePath dir now) fault))
        | .ok made => (made, .ok (savePath dir now)) := by
  unfold save saveOn
  cases tree.createDirectories dir with
  | mk grown result =>
    cases result with
    | error fault => rfl
    | ok _ =>
      cases hmade : grown.createFile (savePath dir now) (History.bytes records) with
      | error fault => simp only [History.write_unlimited, hmade]
      | ok made => simp only [History.write_unlimited, hmade]

/-- A save that gives a path has made a file under it, once the directory was there. -/
theorem createFile_of_save {tree tree' : FileTree} {dir path : Text} {records : List Record}
    {now : Timestamp} (h : tree.save dir records now = (tree', .ok path)) :
    path = savePath dir now ∧ (tree.createDirectories dir).2 = .ok () ∧
      (tree.createDirectories dir).1.createFile path (History.bytes records) = .ok tree' := by
  rw [save_eq] at h
  split at h
  · cases h
  · next grown hgrown =>
    split at h
    · cases h
    · next made hmade =>
      cases h
      rw [hgrown]
      exact ⟨rfl, rfl, hmade⟩

/-- A save that gives a path has made the directory, and the file behind it. -/
theorem save_eq_ok {tree tree' : FileTree} {dir path : Text} {records : List Record}
    {now : Timestamp} (h : tree.save dir records now = (tree', .ok path)) :
    path = savePath dir now ∧ ∃ place, tree'.placeOf? path = some place ∧
      (tree.createDirectories dir).1.node? place = none ∧
      tree' = (tree.createDirectories dir).1.add place (.file (History.bytes records)) := by
  obtain ⟨hpath, -, hmade⟩ := createFile_of_save h
  exact ⟨hpath, createFile_placeOf? hmade⟩

/-- A save that fails has made directories and nothing else. -/
theorem save_eq_error {tree tree' : FileTree} {dir : Text} {records : List Record}
    {now : Timestamp} {error : SaveError} (h : tree.save dir records now = (tree', .error error)) :
    tree' = (tree.createDirectories dir).1 := by
  rw [save_eq] at h
  split at h
  · next grown fault hgrown =>
    cases h
    rw [hgrown]
  · next grown hgrown =>
    split at h
    · cases h
      rw [hgrown]
    · cases h

/-- A save makes one file, with the records in it, and its path leads to it. -/
theorem addsFile_save {tree tree' : FileTree} {dir path : Text} {records : List Record}
    {now : Timestamp} (h : tree.save dir records now = (tree', .ok path)) :
    path = savePath dir now ∧ ∃ place, tree'.placeOf? path = some place ∧
      AddsFile tree tree' place (History.bytes records) := by
  obtain ⟨hpath, -, hmade⟩ := createFile_of_save h
  exact ⟨hpath, addsFile_createFile hmade⟩

/-! ## Disks that fail -/

section Disk

variable {tree tree' : FileTree} {dir : Text} {records : List Record} {now : Timestamp}

/-- A disk has no part in what fails before the file is made. -/
theorem saveOn_of_error (disk : Room) {error : SaveError}
    (h : tree.save dir records now = (tree', .error error)) :
    tree.saveOn disk dir records now = (tree', .error error) := by
  rw [save_eq] at h
  rw [saveOn]
  cases hgrown : tree.createDirectories dir with
  | mk grown result =>
    rw [hgrown] at h
    cases result with
    | error fault => exact h
    | ok _ =>
      simp only at h ⊢
      obtain ⟨fault, hfault, hfault'⟩ | ⟨made, made', hmade, -⟩ :=
        createFile_congr (History.bytes records) (History.write disk records).output
      · rw [hfault] at h
        rw [hfault']
        exact h
      · rw [hmade] at h
        cases h

/-- A disk with the room for a history is as good as any. -/
theorem saveOn_of_le {n : Nat} (reason : Text) (h : (History.bytes records).length ≤ n) :
    tree.saveOn (.limited n reason) dir records now = tree.save dir records now := by
  rw [save, saveOn, saveOn, History.write_limited, if_pos h, History.write_unlimited]

/-- A save on a disk without the room for the history leaves the new file with the first bytes of
it, and says why the others are missing. -/
theorem saveOn_of_lt {n : Nat} (reason : Text) {path : Text}
    (hshort : n < (History.bytes records).length)
    (h : tree.save dir records now = (tree', .ok path)) :
    ∃ torn place, tree.saveOn (.limited n reason) dir records now =
        (torn, .error (.content path reason)) ∧
      torn.placeOf? path = some place ∧
      AddsFile tree torn place ((History.bytes records).take n) := by
  obtain ⟨rfl, hdirectories, hmade⟩ := createFile_of_save h
  obtain ⟨fault, hfault, -⟩ | ⟨-, torn, -, htorn⟩ :=
    createFile_congr (History.bytes records) ((History.bytes records).take n)
  · rw [hmade] at hfault
    cases hfault
  · obtain ⟨place, hplace, hadds⟩ := addsFile_createFile htorn
    refine ⟨torn, place, ?_, hplace, hadds⟩
    have hgrown : tree.createDirectories dir = ((tree.createDirectories dir).1, .ok ()) :=
      Prod.ext rfl hdirectories
    rw [saveOn, hgrown, History.write_limited, if_neg (Nat.not_le_of_lt hshort)]
    simp only [htorn]

end Disk

end Abacus.FileTree
