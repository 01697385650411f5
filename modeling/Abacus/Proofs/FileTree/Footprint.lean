import Abacus.Proofs.FileTree.Saves
import Abacus.Proofs.Text.Split
import Abacus.Proofs.Timestamp

/-!
# What a save may touch

A save adds at most one file and missing directories, and changes nothing else
(`exists_footprint_save`). The file is directly in the directory of the save, under the name of the
moment, and where that is does not depend on what is saved: `placeOf?_of_file?_save`.
-/

namespace Abacus

/-! ## Paths in a directory -/

namespace Path

theorem names_append_slash (dir name : Text) :
    names (dir ++ '/' :: name) = names dir ++ names name :=
  runs_append_cons (by decide) dir name

theorem names_eq_singleton {name : Text} (hne : name ≠ []) (hslash : '/' ∉ name) :
    names name = [name] := by
  refine runs_eq_singleton hne fun c hc => ?_
  have hne : c ≠ '/' := fun h => hslash (h ▸ hc)
  exact decide_eq_true hne

theorem names_nil : names [] = [] := by
  rw [names, runs]

theorem names_join (dir : Text) {name : Text} (hne : name ≠ []) (hslash : '/' ∉ name) :
    names (join dir name) = names dir ++ [name] := by
  unfold join
  split
  · next h =>
    rcases h with rfl | hlast
    · rw [List.nil_append, names_eq_singleton hne hslash, names_nil, List.nil_append]
    · -- The separator is there already.
      obtain ⟨front, rfl⟩ := List.getLast?_eq_some_iff.1 hlast
      have hfront := names_append_slash front []
      rw [names_nil, List.append_nil] at hfront
      rw [hfront, List.append_assoc, List.singleton_append, names_append_slash,
        names_eq_singleton hne hslash]
  · rw [names_append_slash, names_eq_singleton hne hslash]

theorem isAbsolute_join (dir : Text) {name : Text} (hslash : '/' ∉ name) :
    isAbsolute (join dir name) = isAbsolute dir := by
  cases dir with
  | nil =>
    cases name with
    | nil => rfl
    | cons c name =>
      have hc : c ≠ '/' := fun h => hslash (h ▸ List.mem_cons_self)
      simp [join, isAbsolute, hc]
  | cons c dir =>
    unfold join
    split
    · rfl
    · rfl

theorem notMem_join {c : Char} {dir name : Text} (hdir : c ∉ dir) (hslash : c ≠ '/')
    (hname : c ∉ name) : c ∉ join dir name := by
  unfold join
  split
  · exact fun hmem => (List.mem_append.1 hmem).elim hdir hname
  · rw [List.mem_append, List.mem_cons]
    rintro (hmem | hmem | hmem)
    · exact hdir hmem
    · exact hslash hmem
    · exact hname hmem

end Path

namespace Timestamp

theorem fileName_ne_nil (now : Timestamp) : now.fileName ≠ [] :=
  List.append_ne_nil_of_right_ne_nil _ (by decide)

/-- Between its first and its last part, the name of a moment has digits alone. -/
theorem notMem_fileName {c : Char} (hfront : c ∉ "calculator_history_".toList)
    (hdigit : c.isDigit = false) (hback : c ∉ ".csv".toList) (now : Timestamp) :
    c ∉ now.fileName := by
  refine notMem_append_append hfront (fun h => ?_) hback
  exact Bool.false_ne_true (hdigit.symm.trans (isDigit_of_mem_stamp h))

theorem slash_notMem_fileName (now : Timestamp) : '/' ∉ now.fileName :=
  notMem_fileName (by decide) rfl (by decide) now

end Timestamp

namespace FileTree

/-! ## The place of a file -/

theorem placeOf?_of_vacancy {tree : FileTree} {path : Text} {place : Place}
    (hadmits : admits path = .ok ())
    (h : tree.vacancy (tree.start path) (Path.names path) = .ok place) :
    tree.placeOf? path = some place := by
  obtain ⟨name, dir, hname, hdir, rfl, -⟩ := vacancy_eq_ok h
  simp only [placeOf?, hadmits, hname, hdir]
  rfl

/-- The place of a name in a directory is directly in it. -/
theorem exists_home {tree : FileTree} {dir name : Text} {place : Place} (hne : name ≠ [])
    (hslash : '/' ∉ name) (h : tree.placeOf? (Path.join dir name) = some place) :
    ∃ home, tree.walk (tree.start dir) (Path.names dir) = .ok home ∧ place = home ++ [name] := by
  have hstart : tree.start (Path.join dir name) = tree.start dir := by
    rw [start, start, Path.isAbsolute_join dir hslash]
  rw [placeOf?, hstart, Path.names_join dir hne hslash, List.getLast?_concat,
    List.dropLast_concat] at h
  split at h
  · next last _ hlast =>
    cases hlast
    cases hwalk : tree.walk (tree.start dir) (Path.names dir) with
    | error fault =>
      rw [hwalk] at h
      cases h
    | ok home =>
      rw [hwalk] at h
      cases h
      exact ⟨home, rfl, rfl⟩
  · cases h

/-- A file that is new behind a save, or was not what it is, holds the records and is where the
path leads once the directory is made. -/
theorem placeOf?_of_file?_save {tree : FileTree} {dir : Text} {records : List Record}
    {now : Timestamp} {place : Place} {content : Bytes} (hold : tree.file? place ≠ some content)
    (hnew : (tree.save dir records now).1.file? place = some content) :
    content = History.bytes records ∧
      (tree.createDirectories dir).1.placeOf? (savePath dir now) = some place := by
  have hgrown := addsDirectories_create tree dir
  cases hsave : tree.save dir records now with
  | mk new result =>
    rw [hsave] at hnew
    cases result with
    | error error =>
      obtain rfl := save_eq_error hsave
      exact absurd ((hgrown.files place).symm.trans hnew) hold
    | ok path =>
      obtain ⟨rfl, -, hmade⟩ := createFile_of_save hsave
      obtain ⟨hadmits, there, hvacancy, rfl⟩ := createFile_eq_ok hmade
      obtain ⟨_, _, _, _, _, hnone⟩ := vacancy_eq_ok hvacancy
      rw [(addsFile_add hnone _).files] at hnew
      split at hnew
      · next hplace =>
        cases hnew
        exact ⟨rfl, hplace ▸ placeOf?_of_vacancy hadmits hvacancy⟩
      · exact absurd ((hgrown.files place).symm.trans hnew) hold

/-! ## Footprints -/

/-- What a tree may have more than another for a file of a name in a directory: the file, in the
directory that the path leads to, and directories on the way. Everything else is as it was. -/
structure Footprint (old new : FileTree) (dir name : Text) (added : List (Place × Bytes)) :
    Prop where
  /-- What there was is there. -/
  kept : Extends old new
  /-- Some files are new. -/
  files : AddsFiles old new added
  /-- There is at most one of them. -/
  atMostOne : added.length ≤ 1
  /-- The path of the file leads to it. -/
  leads : ∀ file ∈ added, new.placeOf? (Path.join dir name) = some file.1
  /-- It is directly in the directory. -/
  home : ∀ file ∈ added,
    ∃ home, new.walk (new.start dir) (Path.names dir) = .ok home ∧ file.1 = home ++ [name]
  /-- What else is new are directories on the way. -/
  way : ∀ place node, place ∉ added.map Prod.fst → old.node? place = none →
    new.node? place = some node → node = .directory ∧ new.OnWay dir place

theorem addsFiles_nil {old new : FileTree} (h : ∀ place, new.file? place = old.file? place) :
    AddsFiles old new [] :=
  ⟨List.nodup_nil, by simp, by simp [h]⟩

theorem footprint_refl (tree : FileTree) (dir name : Text) : Footprint tree tree dir name [] := by
  refine ⟨.refl tree, addsFiles_nil fun _ => rfl, Nat.zero_le 1, by simp, by simp, ?_⟩
  intro place node _ hnone hnode
  rw [hnone] at hnode
  cases hnode

/-- A save adds at most one file, directly in its directory, and missing directories. -/
theorem exists_footprint_save (tree : FileTree) (dir : Text) (records : List Record)
    (now : Timestamp) :
    ∃ added, Footprint tree (tree.save dir records now).1 dir now.fileName added := by
  have hkept := extends_save tree dir records now
  cases hsave : tree.save dir records now with
  | mk new result =>
    rw [hsave] at hkept
    cases result with
    | error error =>
      have hfailed : Failed tree new ⟨dir, records, now⟩ := failed_save hsave
      exact ⟨[], hkept, addsFiles_nil hfailed.files, Nat.zero_le 1, by simp, by simp,
        fun place node _ => hfailed.way place node⟩
    | ok path =>
      obtain ⟨place, hsucceeded⟩ : ∃ place, Succeeded tree new ⟨dir, records, now⟩ path place :=
        succeeded_save hsave
      have hleads := hsucceeded.leads
      rw [hsucceeded.named] at hleads
      have hfiles := AddsFiles.cons hkept hsucceeded.file (addsFiles_nil fun _ => rfl)
      refine ⟨_, hkept, hfiles, Nat.le_refl 1, ?_, ?_, fun other node hother => ?_⟩
      · rintro file hfile
        rw [List.mem_singleton.1 hfile]
        exact hleads
      · rintro file hfile
        rw [List.mem_singleton.1 hfile]
        exact exists_home now.fileName_ne_nil now.slash_notMem_fileName hleads
      · exact hsucceeded.way other node fun hplace => hother (List.mem_singleton.2 hplace)

end FileTree

end Abacus
