import Abacus.Proofs.FileTree.Creation
import Mathlib.Data.List.Nodup

/-!
# Runs of saves

Histories are written once. A save makes one file where there was nothing and missing directories
on the way to it (`succeeded_save`); one that fails makes such directories alone (`failed_save`),
and neither touches what there is (`extends_save`). From these steps `saveAll_added` counts the
files of a run by induction, and `saveAll_once` says it all of any run.
-/

namespace Abacus

/-- What a save is asked for. -/
structure SaveCall where
  dir : Text
  records : List Record
  now : Timestamp

namespace FileTree

/-- What is at a path. -/
def at? (tree : FileTree) (path : Text) : Option Node :=
  (tree.placeOf? path).bind tree.node?

/-- The first names of a directory's path lead to a place. -/
def OnWay (tree : FileTree) (dir : Text) (place : Place) : Prop :=
  ∃ front, front <+: Path.names dir ∧ front ≠ [] ∧ tree.walk (tree.start dir) front = .ok place

/-- What one tree holds is in the other at its place, and paths start where they did. -/
structure Extends (old new : FileTree) : Prop where
  workplace : new.workplace = old.workplace
  kept : ∀ place node, old.node? place = some node → new.node? place = some node

/-- A call that gave a path, at which there was nothing: there is one file more, and what else is
new are directories on the way. -/
structure Succeeded (old new : FileTree) (call : SaveCall) (path : Text) (place : Place) :
    Prop where
  named : path = savePath call.dir call.now
  free : old.at? path = none
  leads : new.placeOf? path = some place
  file : AddsFile old new place (History.bytes call.records)
  way : ∀ other node, other ≠ place → old.node? other = none → new.node? other = some node →
    node = .directory ∧ new.OnWay call.dir other

/-- A call that failed: no file is new, and what is new are directories on the way. -/
structure Failed (old new : FileTree) (call : SaveCall) : Prop where
  files : ∀ place, new.file? place = old.file? place
  way : ∀ place node, old.node? place = none → new.node? place = some node →
    node = .directory ∧ new.OnWay call.dir place

/-! ## Trees that grow -/

theorem Extends.refl (tree : FileTree) : Extends tree tree :=
  ⟨rfl, fun _ _ h => h⟩

theorem Extends.trans {a b c : FileTree} (hab : Extends a b) (hbc : Extends b c) : Extends a c :=
  ⟨hbc.workplace.trans hab.workplace,
    fun place node h => hbc.kept place node (hab.kept place node h)⟩

theorem Extends.start_eq {old new : FileTree} (h : Extends old new) (path : Text) :
    new.start path = old.start path := by
  rw [start, start, h.workplace]

theorem Extends.node?_eq_none {old new : FileTree} (h : Extends old new) {place : Place}
    (hnone : new.node? place = none) : old.node? place = none := by
  cases hold : old.node? place with
  | none => rfl
  | some node => exact (h.kept place node hold).symm.trans hnone

theorem extends_add {tree : FileTree} {place : Place} (h : tree.node? place = none) (node : Node) :
    Extends tree (tree.add place node) :=
  ⟨rfl, kept_add h node⟩

theorem extends_createDirectories (tree : FileTree) (path : Text) :
    Extends tree (tree.createDirectories path).1 :=
  ⟨(addsDirectories_create tree path).workplace, (addsDirectories_create tree path).kept⟩

/-- A path leads where it led. -/
theorem Extends.placeOf? {old new : FileTree} (h : Extends old new) {path : Text} {place : Place}
    (hplace : old.placeOf? path = some place) : new.placeOf? path = some place := by
  unfold FileTree.placeOf? at hplace ⊢
  rw [h.start_eq]
  split at hplace
  · cases hwalk : old.walk (old.start path) (Path.names path).dropLast with
    | error fault => simp [hwalk, Except.toOption] at hplace
    | ok dir =>
      rw [hwalk] at hplace
      simpa [walk_of_kept h.kept hwalk] using hplace
  · cases hplace

/-! ## Directories on the way -/

theorem walk_append (tree : FileTree) {here there : Place} {first : List Text}
    (h : tree.walk here first = .ok there) (second : List Text) :
    tree.walk here (first ++ second) = tree.walk there second := by
  induction first generalizing here with
  | nil =>
    cases h
    rfl
  | cons name first ih =>
    rw [walk] at h
    rw [List.cons_append, walk]
    split at h
    · next hstay => exact (if_pos hstay).trans (ih h)
    next hstay =>
    rw [if_neg hstay]
    split at h
    · next hup => exact (if_pos hup).trans (ih h)
    next hup =>
    rw [if_neg hup]
    split at h
    · cases h
    next hlong =>
    rw [if_neg hlong]
    split at h
    · cases h
    · cases h
    · exact ih h

/-- The names of a vacancy lead to the directory that is made there. -/
theorem walk_add_of_vacancy {tree : FileTree} {here place : Place} {names : List Text}
    (h : tree.vacancy here names = .ok place) :
    (tree.add place .directory).walk here names = .ok place := by
  obtain ⟨name, dir, hname, hdir, rfl, hnone⟩ := vacancy_eq_ok h
  obtain ⟨front, rfl⟩ := List.getLast?_eq_some_iff.1 hname
  rw [List.dropLast_concat] at hdir
  have hwalk := walk_of_kept (kept_add hnone .directory) hdir
  have hnode : (tree.add (dir ++ [name]) .directory).node? (dir ++ [name]) = some .directory := by
    rw [node?_add hnone, if_pos rfl]
  simp only [vacancy, hname, List.dropLast_concat, hdir, vacancyIn] at h
  rw [walk_append _ hwalk, walk]
  split at h
  · cases h
  · next hdots =>
    obtain ⟨hstay, hup⟩ := not_or.1 hdots
    rw [if_neg hstay, if_neg hup]
    split at h
    · cases h
    · next hlong =>
      rw [if_neg hlong, hnode]
      rfl

/-- What is new behind the making of a directory are directories on the way to it. -/
theorem onWay_createDirectories (tree : FileTree) (dir : Text) {place : Place} {node : Node}
    (hnone : tree.node? place = none)
    (hnode : (tree.createDirectories dir).1.node? place = some node) :
    node = .directory ∧ (tree.createDirectories dir).1.OnWay dir place := by
  -- The way starts in one place, whichever tree it is looked up in.
  let R := fun old new : FileTree => (∀ other node, old.node? other = some node →
      new.node? other = some node) ∧
    ∀ other node, old.node? other = none → new.node? other = some node →
      node = .directory ∧ ∃ front, front <+: Path.names dir ∧ front ≠ [] ∧
        new.walk (tree.start dir) front = .ok other
  have hR : R tree (tree.createDirectories dir).1 := by
    refine createDirectories_rel ?_ ?_ tree dir ?_
    · refine fun tree => ⟨fun _ _ h => h, fun other node hnone hnode => ?_⟩
      rw [hnone] at hnode
      cases hnode
    · rintro a b c ⟨hab, hab'⟩ ⟨hbc, hbc'⟩
      refine ⟨fun other node h => hbc other node (hab other node h), fun other node ha hc => ?_⟩
      cases hb : b.node? other with
      | none => exact hbc' other node hb hc
      | some node' =>
        obtain rfl := Option.some.inj ((hbc other node' hb).symm.trans hc)
        obtain ⟨hdirectory, front, hfront, hne, hwalk⟩ := hab' other node' ha hb
        exact ⟨hdirectory, front, hfront, hne, walk_of_kept hbc hwalk⟩
    · intro grown other front hfront hvacancy
      obtain ⟨name, _, hname, _, _, hfree⟩ := vacancy_eq_ok hvacancy
      refine ⟨kept_add hfree .directory, fun place node hnone hnode => ?_⟩
      rw [node?_add hfree] at hnode
      split at hnode
      · next hplace =>
        cases hnode
        subst hplace
        refine ⟨rfl, front, hfront, ?_, walk_add_of_vacancy hvacancy⟩
        rintro rfl
        cases hname
      · rw [hnone] at hnode
        cases hnode
  obtain ⟨hdirectory, front, hfront, hne, hwalk⟩ := hR.2 place node hnone hnode
  refine ⟨hdirectory, front, hfront, hne, ?_⟩
  rwa [(extends_createDirectories tree dir).start_eq]

theorem OnWay.of_extends {old new : FileTree} (h : Extends old new) {dir : Text} {place : Place}
    (hway : old.OnWay dir place) : new.OnWay dir place := by
  obtain ⟨front, hfront, hne, hwalk⟩ := hway
  refine ⟨front, hfront, hne, ?_⟩
  rw [h.start_eq]
  exact walk_of_kept h.kept hwalk

/-! ## One save -/

theorem extends_save (tree : FileTree) (dir : Text) (records : List Record) (now : Timestamp) :
    Extends tree (tree.save dir records now).1 := by
  have hgrown := extends_createDirectories tree dir
  cases hsave : tree.save dir records now with
  | mk new result =>
    cases result with
    | error error =>
      rw [save_eq_error hsave]
      exact hgrown
    | ok path =>
      obtain ⟨-, place, -, hnone, rfl⟩ := save_eq_ok hsave
      exact hgrown.trans (extends_add hnone _)

/-- A save that gives a path made one file there and missing directories on the way. -/
theorem succeeded_save {tree new : FileTree} {call : SaveCall} {path : Text}
    (h : tree.save call.dir call.records call.now = (new, .ok path)) :
    ∃ place, Succeeded tree new call path place := by
  have hextends := extends_save tree call.dir call.records call.now
  rw [h] at hextends
  obtain ⟨hpath, place, hleads, hfile⟩ := addsFile_save h
  refine ⟨place, hpath, ?_, hleads, hfile, fun other node hne hnone hnode => ?_⟩
  · -- If the path led anywhere, it led to the place of the file, where there was nothing.
    rw [at?, Option.bind_eq_none_iff]
    intro there hthere
    obtain rfl := Option.some.inj ((hextends.placeOf? hthere).symm.trans hleads)
    exact hfile.vacant
  · obtain ⟨-, place', hleads', hfree, rfl⟩ := save_eq_ok h
    obtain rfl := Option.some.inj (hleads'.symm.trans hleads)
    rw [node?_add hfree, if_neg hne] at hnode
    obtain ⟨hdirectory, hway⟩ := onWay_createDirectories tree call.dir hnone hnode
    exact ⟨hdirectory, hway.of_extends (extends_add hfree _)⟩

/-- A save that fails made missing directories on the way and nothing else. -/
theorem failed_save {tree new : FileTree} {call : SaveCall} {error : SaveError}
    (h : tree.save call.dir call.records call.now = (new, .error error)) :
    Failed tree new call := by
  obtain rfl := save_eq_error h
  exact ⟨(addsDirectories_create tree call.dir).files,
    fun place node => onWay_createDirectories tree call.dir⟩

/-! ## Runs -/

/-- What a run of saves gives: the result of each call, and the tree behind them. -/
structure SaveRun where
  results : List (Except SaveError Text)
  tree : FileTree

/-- The paths that the calls of a run gave. -/
def SaveRun.paths (run : SaveRun) : List Text :=
  run.results.filterMap Except.toOption

/-- Saves one behind the other. -/
def saveAll (tree : FileTree) : List SaveCall → SaveRun
  | [] => ⟨[], tree⟩
  | call :: calls =>
    let (new, result) := tree.save call.dir call.records call.now
    let rest := new.saveAll calls
    ⟨result :: rest.results, rest.tree⟩

/-- One tree has some files more than another, each at a place of its own where there was
nothing. -/
structure AddsFiles (old new : FileTree) (added : List (Place × Bytes)) : Prop where
  distinct : (added.map Prod.fst).Nodup
  vacant : ∀ file ∈ added, old.node? file.1 = none
  files : ∀ place content,
    new.file? place = some content ↔ old.file? place = some content ∨ (place, content) ∈ added

theorem saveAll_append (tree : FileTree) (first second : List SaveCall) :
    tree.saveAll (first ++ second) =
      let run := tree.saveAll first
      let run' := run.tree.saveAll second
      ⟨run.results ++ run'.results, run'.tree⟩ := by
  induction first generalizing tree with
  | nil => rfl
  | cons call first ih => simp only [List.cons_append, saveAll, ih]

theorem length_results_saveAll (tree : FileTree) (calls : List SaveCall) :
    (tree.saveAll calls).results.length = calls.length := by
  induction calls generalizing tree with
  | nil => rfl
  | cons call calls ih => simp only [saveAll, List.length_cons, ih]

theorem extends_saveAll (tree : FileTree) (calls : List SaveCall) :
    Extends tree (tree.saveAll calls).tree := by
  induction calls generalizing tree with
  | nil => exact .refl tree
  | cons call calls ih => exact (extends_save tree _ _ _).trans (ih _)

theorem AddsFiles.of_failed {a b c : FileTree} {call : SaveCall} {added : List (Place × Bytes)}
    (hextends : Extends a b) (h : Failed a b call) (hadds : AddsFiles b c added) :
    AddsFiles a c added := by
  refine ⟨hadds.distinct, fun file hmem => hextends.node?_eq_none (hadds.vacant file hmem), ?_⟩
  intro place content
  rw [hadds.files, h.files]

theorem AddsFiles.cons {a b c : FileTree} {place : Place} {content : Bytes}
    {added : List (Place × Bytes)} (hextends : Extends a b) (h : AddsFile a b place content)
    (hadds : AddsFiles b c added) : AddsFiles a c ((place, content) :: added) := by
  have hthere : b.file? place = some content := (h.files place).trans (if_pos rfl)
  have hnone : a.file? place = none := by rw [file?, h.vacant]
  refine ⟨List.nodup_cons.2 ⟨fun hmem => ?_, hadds.distinct⟩, fun file hmem => ?_, ?_⟩
  · -- The place of the first file is taken for the others.
    obtain ⟨file, hfile, rfl⟩ := List.mem_map.1 hmem
    rw [file?, hadds.vacant file hfile] at hthere
    cases hthere
  · rcases List.mem_cons.1 hmem with rfl | hmem
    · exact h.vacant
    · exact hextends.node?_eq_none (hadds.vacant file hmem)
  · intro other content'
    rw [hadds.files, h.files, List.mem_cons, Prod.mk.injEq]
    by_cases hother : other = place
    · rw [if_pos hother, hother, hnone, Option.some.injEq, eq_comm]
      simp
    · rw [if_neg hother]
      simp [hother]

/-- The files that a run adds are as many as the paths that it gave, and those lead to them. -/
theorem saveAll_added (tree : FileTree) (calls : List SaveCall) :
    let run := tree.saveAll calls
    ∃ added, AddsFiles tree run.tree added ∧
      run.paths.map run.tree.placeOf? = added.map fun file => some file.1 := by
  induction calls generalizing tree with
  | nil => exact ⟨[], ⟨List.nodup_nil, by simp, by simp [saveAll]⟩, rfl⟩
  | cons call calls ih =>
    have hextends := extends_save tree call.dir call.records call.now
    cases hsave : tree.save call.dir call.records call.now with
    | mk new result =>
      rw [hsave] at hextends
      obtain ⟨added, hadds, hpaths⟩ := ih new
      simp only [saveAll, hsave]
      cases result with
      | error error => exact ⟨added, hadds.of_failed hextends (failed_save hsave), hpaths⟩
      | ok path =>
        obtain ⟨place, hsucceeded⟩ := succeeded_save hsave
        refine ⟨_, hadds.cons hextends hsucceeded.file, ?_⟩
        have hleads := (extends_saveAll new calls).placeOf? hsucceeded.leads
        rw [List.map_cons, ← hpaths, ← hleads]
        rfl

/-- Histories are written once. In any run of saves on any tree,
1. each call keeps every file and directory that there is, with its content;
2. a call that gives a path gives that of its directory and moment, at which there was nothing; the
   one file that is new is there and holds the history, and what else is new are directories on
   the way; a call that fails adds such directories alone;
3. there are as many new files as calls that gave a path, each at a place of its own where there
   was nothing;
4. no two calls gave paths that lead to one place, nor the same path. -/
theorem saveAll_once (tree : FileTree) (calls : List SaveCall) :
    let run := tree.saveAll calls
    (∀ earlier call later, calls = earlier ++ call :: later →
      let old := (tree.saveAll earlier).tree
      let new := (tree.saveAll (earlier ++ [call])).tree
      Extends old new ∧ ∃ result, run.results[earlier.length]? = some result ∧
        match result with
        | .ok path => ∃ place, Succeeded old new call path place
        | .error _ => Failed old new call) ∧
      (∃ added, AddsFiles tree run.tree added ∧ added.length = run.paths.length) ∧
      (run.paths.map run.tree.placeOf?).Nodup ∧ run.paths.Nodup := by
  intro run
  obtain ⟨added, hadds, hpaths⟩ := saveAll_added tree calls
  have hnodup : (run.paths.map run.tree.placeOf?).Nodup := by
    rw [hpaths, show (fun file : Place × Bytes => some file.1) = some ∘ Prod.fst from rfl,
      ← List.map_map]
    exact hadds.distinct.map fun _ _ => Option.some.inj
  refine ⟨?_, ⟨added, hadds, ?_⟩, hnodup, hnodup.of_map _⟩
  · rintro earlier call later rfl old new
    have hnew : new = (old.save call.dir call.records call.now).1 := by
      simp only [new, saveAll_append, saveAll, old]
    have hresult : run.results[earlier.length]? =
        some (old.save call.dir call.records call.now).2 := by
      simp only [run, saveAll_append, saveAll, old]
      rw [List.getElem?_append_right (Nat.le_of_eq (length_results_saveAll tree earlier)),
        length_results_saveAll, Nat.sub_self]
      rfl
    rw [hnew]
    refine ⟨extends_save old _ _ _, _, hresult, ?_⟩
    cases hsave : old.save call.dir call.records call.now with
    | mk grown result =>
      cases result with
      | ok path => exact succeeded_save hsave
      | error error => exact failed_save hsave
  · have hlength := congrArg List.length hpaths
    rw [List.length_map, List.length_map] at hlength
    exact hlength.symm

/-- Three saves of one second: the second leads to the file of the first on another way, and for
the third that file stands in place of a directory. -/
theorem saveAll_once_collision :
    let now : Timestamp := ⟨⟨2024, 2, 29, 23, 59, 8, 0⟩, by decide⟩
    let dirs := ["a/../b/", "./b", "b/calculator_history_290224235908.csv/c"].map String.toList
    let tree := new ["home".toList]
    let run := tree.saveAll (dirs.map fun dir => ⟨dir, [], now⟩)
    run.paths = ["a/../b/calculator_history_290224235908.csv".toList] ∧
      ∃ added, AddsFiles tree run.tree added ∧ added.length = 1 := by
  intro now dirs tree run
  have hpaths : run.paths = ["a/../b/calculator_history_290224235908.csv".toList] := by
    decide +kernel
  obtain ⟨-, ⟨added, hadds, hlength⟩, -⟩ :=
    saveAll_once tree (dirs.map fun dir => ⟨dir, [], now⟩)
  exact ⟨hpaths, added, hadds, hlength.trans (congrArg List.length hpaths)⟩

end FileTree

end Abacus
