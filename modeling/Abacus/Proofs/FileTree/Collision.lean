import Abacus.Proofs.FileTree.Footprint

/-!
# Saves at one path

A directory that is there is not made again (`createDirectories_of_walk`), so a save in it comes
down to the vacancy of one name in one place: `result_save`. A file stands in the way of a later
save in its directory exactly if the moments of the two show the same (`save_blocked_iff`), and
otherwise makes no difference to it (`result_save_behind`). `saves_collide_iff` puts this together
with what names of moments are.
-/

namespace Abacus

theorem Path.join_inj {dir name name' : Text} :
    Path.join dir name = Path.join dir name' ↔ name = name' := by
  unfold join
  split
  · exact List.append_right_inj dir
  · rw [List.append_right_inj, List.cons.injEq, and_iff_right rfl]

theorem savePath_eq_iff {dir : Text} {s t : Timestamp} :
    savePath dir s = savePath dir t ↔ s.SameStamp t := by
  rw [savePath, savePath, Path.join_inj, Timestamp.fileName_eq_iff]

namespace FileTree

variable {tree : FileTree} {dir : Text} {here home : Place} {names : List Text}

/-! ## Directories that are there -/

/-- Names that lead to a directory leave no vacancy. -/
theorem vacancy_ne_ok (hwalk : tree.walk here names = .ok home) (place : Place) :
    tree.vacancy here names ≠ .ok place := by
  intro h
  have hmade := walk_add_of_vacancy h
  obtain ⟨name, dir, hname, hdir, rfl, hnone⟩ := vacancy_eq_ok h
  -- The names lead to the place where a directory would be made, but nothing is there.
  obtain rfl : home = dir ++ [name] :=
    Except.ok.inj ((walk_of_kept (kept_add hnone .directory) hwalk).symm.trans hmade)
  obtain ⟨front, rfl⟩ := List.getLast?_eq_some_iff.1 hname
  rw [List.dropLast_concat] at hdir
  rw [walk_append tree hdir, walk] at hwalk
  split at hwalk
  · have hlength := congrArg List.length (Except.ok.inj hwalk)
    simp at hlength
  split at hwalk
  · have hlength := congrArg List.length (Except.ok.inj hwalk)
    simp at hlength
  split at hwalk
  · cases hwalk
  · rw [hnone] at hwalk
    cases hwalk

/-- A directory that is there is not made. -/
theorem createDirectories_of_walk (hadmits : Path.names dir = [] ∨ admits dir = .ok ())
    (hwalk : tree.walk (tree.start dir) (Path.names dir) = .ok home) :
    tree.createDirectories dir = (tree, .ok ()) := by
  have hensure : tree.ensureDirectory (tree.start dir) (Path.names dir) = .ok tree := by
    rw [ensureDirectory, makeDirectory]
    cases hvacancy : tree.vacancy (tree.start dir) (Path.names dir) with
    | ok place => exact absurd hvacancy (vacancy_ne_ok hwalk place)
    | error fault =>
      have hthere : tree.isDirectory (tree.start dir) (Path.names dir) = true := by
        rw [isDirectory, hwalk]
        rfl
      exact if_pos hthere
  rw [createDirectories]
  split
  · rfl
  · next hne =>
    rw [hadmits.resolve_left hne, ensureDirectories, hensure]

/-- The path of a directory that was made is admitted, unless it is empty or the root. -/
theorem admits_of_createDirectories {grown : FileTree}
    (h : tree.createDirectories dir = (grown, .ok ())) :
    Path.names dir = [] ∨ admits dir = .ok () := by
  unfold createDirectories at h
  split at h
  · next hnil => exact .inl hnil
  · split at h
    · cases h
    · next hadmits => exact .inr hadmits

/-! ## A name in a directory -/

/-- The vacancy of a name in a directory is looked for in the place of the directory. -/
theorem vacancy_join {name : Text} (hne : name ≠ []) (hslash : '/' ∉ name)
    (hwalk : tree.walk (tree.start dir) (Path.names dir) = .ok home) :
    tree.vacancy (tree.start (Path.join dir name)) (Path.names (Path.join dir name)) =
      tree.vacancyIn home name := by
  have hstart : tree.start (Path.join dir name) = tree.start dir := by
    rw [start, start, Path.isAbsolute_join dir hslash]
  rw [hstart, Path.names_join dir hne hslash, vacancy, List.getLast?_concat, List.dropLast_concat]
  simp only [hwalk]

/-- What a save gives once its directory is there: the path, or why there is no vacancy. -/
theorem result_save {grown : FileTree} (hgrown : tree.createDirectories dir = (grown, .ok ()))
    (hwalk : grown.walk (grown.start dir) (Path.names dir) = .ok home) (records : List Record)
    (now : Timestamp) :
    (tree.save dir records now).2 =
      match admits (savePath dir now), grown.vacancyIn home now.fileName with
      | .ok (), .ok _ => .ok (savePath dir now)
      | .ok (), .error fault => .error (.file (savePath dir now) fault)
      | .error fault, _ => .error (.file (savePath dir now) fault) := by
  have hvacancy := vacancy_join now.fileName_ne_nil now.slash_notMem_fileName hwalk
  rw [save_eq, hgrown]
  simp only [createFile, savePath, hvacancy]
  cases admits (Path.join dir now.fileName) with
  | error fault => rfl
  | ok _ =>
    cases grown.vacancyIn home now.fileName with
    | error fault => rfl
    | ok place => rfl

/-- What a save gives in a directory that is there already. -/
theorem result_save_of_extends {grown later : FileTree} (hlater : Extends grown later)
    (hadmits : Path.names dir = [] ∨ admits dir = .ok ())
    (hwalk : grown.walk (grown.start dir) (Path.names dir) = .ok home) (records : List Record)
    (now : Timestamp) :
    (later.save dir records now).2 =
      match admits (savePath dir now), later.vacancyIn home now.fileName with
      | .ok (), .ok _ => .ok (savePath dir now)
      | .ok (), .error fault => .error (.file (savePath dir now) fault)
      | .error fault, _ => .error (.file (savePath dir now) fault) := by
  have hwalk' : later.walk (later.start dir) (Path.names dir) = .ok home := by
    rw [hlater.start_eq]
    exact walk_of_kept hlater.kept hwalk
  exact result_save (createDirectories_of_walk hadmits hwalk') hwalk' records now

theorem path_of_save_error {records : List Record} {now : Timestamp} {path : Text}
    {fault : FileFault} (h : (tree.save dir records now).2 = .error (.file path fault)) :
    path = savePath dir now := by
  rw [save_eq] at h
  split at h
  · cases h
  · split at h
    · cases h
      rfl
    · cases h

/-! ## Behind a save -/

section Behind

variable {after : FileTree} {path : Text} {records : List Record} {s : Timestamp}

/-- A save that gives a path put its file into a directory that is there by then. -/
theorem exists_home_of_save (h : tree.save dir records s = (after, .ok path)) :
    ∃ grown home, tree.createDirectories dir = (grown, .ok ()) ∧
      grown.walk (grown.start dir) (Path.names dir) = .ok home ∧
      admits (savePath dir s) = .ok () ∧
      grown.vacancyIn home s.fileName = .ok (home ++ [s.fileName]) ∧
      grown.node? (home ++ [s.fileName]) = none ∧
      after = grown.add (home ++ [s.fileName]) (.file (History.bytes records)) := by
  obtain ⟨rfl, hdirectories, hmade⟩ := createFile_of_save h
  obtain ⟨hadmits, place, hvacancy, hafter⟩ := createFile_eq_ok hmade
  obtain ⟨home, hwalk, rfl⟩ := exists_home s.fileName_ne_nil s.slash_notMem_fileName
    (placeOf?_of_vacancy hadmits hvacancy)
  have hfree := hvacancy
  rw [savePath, vacancy_join s.fileName_ne_nil s.slash_notMem_fileName hwalk] at hfree
  exact ⟨_, home, Prod.ext rfl hdirectories, hwalk, hadmits, hfree, (vacancyIn_eq_ok hfree).2,
    hafter⟩

theorem vacancyIn_of_taken {old new : FileTree} {name : Text} {place : Place} {node : Node}
    (h : old.vacancyIn here name = .ok place) (hnode : new.node? place = some node) :
    new.vacancyIn here name = .error .alreadyExists := by
  obtain ⟨rfl, -⟩ := vacancyIn_eq_ok h
  unfold vacancyIn at h ⊢
  split at h
  · cases h
  split at h
  · cases h
  · next hdots hlong => rw [if_neg hdots, if_neg hlong, hnode]

theorem vacancyIn_add_of_ne {name name' : Text} (hne : name' ≠ name)
    (hnone : tree.node? (home ++ [name]) = none) (node : Node) :
    (tree.add (home ++ [name]) node).vacancyIn home name' = tree.vacancyIn home name' := by
  have hplace : home ++ [name'] ≠ home ++ [name] := fun h =>
    hne (List.singleton_inj.1 (List.append_cancel_left h))
  rw [vacancyIn, vacancyIn, node?_add hnone, if_neg hplace]

/-- The file of a save stands in the way of a later save in its directory exactly if the two moments
show the same. -/
theorem save_blocked_iff (h : tree.save dir records s = (after, .ok path)) {later : FileTree}
    (hlater : Extends after later) (records' : List Record) (t : Timestamp) :
    (later.save dir records' t).2 = .error (.file path .alreadyExists) ↔ s.SameStamp t := by
  obtain ⟨grown, home, hgrown, hwalk, hadmits, hfree, hnone, rfl⟩ := exists_home_of_save h
  obtain ⟨rfl, -⟩ := createFile_of_save h
  constructor
  · intro herror
    exact savePath_eq_iff.1 (path_of_save_error herror)
  · intro hsame
    have hpath : savePath dir s = savePath dir t := savePath_eq_iff.2 hsame
    have hnode : later.node? (home ++ [s.fileName]) = some (.file (History.bytes records)) := by
      refine hlater.kept _ _ ?_
      rw [node?_add hnone, if_pos rfl]
    rw [result_save_of_extends ((extends_add hnone _).trans hlater)
      (admits_of_createDirectories hgrown) hwalk, ← hpath, hadmits,
      ← Timestamp.fileName_eq_iff.2 hsame, vacancyIn_of_taken hfree hnode]

/-- Behind a save, another one in its directory gives what it would have given without it, if the
two moments do not show the same. -/
theorem result_save_behind (h : tree.save dir records s = (after, .ok path)) {t : Timestamp}
    (hne : ¬s.SameStamp t) (records' : List Record) :
    (after.save dir records' t).2 = (tree.save dir records' t).2 := by
  obtain ⟨grown, home, hgrown, hwalk, -, -, hnone, rfl⟩ := exists_home_of_save h
  have hname : t.fileName ≠ s.fileName := fun heq => hne (Timestamp.fileName_eq_iff.1 heq.symm)
  rw [result_save_of_extends (extends_add hnone _) (admits_of_createDirectories hgrown) hwalk,
    result_save hgrown hwalk, vacancyIn_add_of_ne hname hnone]

/-- A directory may be named by another path: a save that would make its file there is refused
behind one that did exactly if the two moments show the same. -/
theorem save_behind_same_directory (h : tree.save dir records s = (after, .ok path))
    {grown : FileTree} (hgrown : tree.createDirectories dir = (grown, .ok ())) {dir' path' : Text}
    {records' : List Record} {t : Timestamp}
    (hdir : grown.walk (grown.start dir') (Path.names dir') =
      grown.walk (grown.start dir) (Path.names dir))
    (halone : (grown.save dir' records' t).2 = .ok path') :
    (s.SameStamp t → (after.save dir' records' t).2 = .error (.file path' .alreadyExists)) ∧
      (¬s.SameStamp t → (after.save dir' records' t).2 = .ok path') := by
  obtain ⟨grown₁, home, hgrown₁, hwalk, -, hfree, hnone, rfl⟩ := exists_home_of_save h
  obtain rfl : grown = grown₁ := congrArg Prod.fst (hgrown.symm.trans hgrown₁)
  obtain ⟨grown₂, home₂, hgrown₂, hwalk₂, hadmits, hfree₂, -, -⟩ :=
    exists_home_of_save (Prod.ext rfl halone)
  obtain ⟨rfl, -⟩ := createFile_of_save (Prod.ext rfl halone)
  -- The second directory is there once the first has been made.
  rw [hwalk] at hdir
  have hadmitted := admits_of_createDirectories hgrown₂
  rw [createDirectories_of_walk hadmitted hdir] at hgrown₂
  obtain rfl : grown = grown₂ := congrArg Prod.fst hgrown₂
  obtain rfl : home = home₂ := Except.ok.inj (hdir.symm.trans hwalk₂)
  rw [result_save_of_extends (extends_add hnone _) hadmitted hdir, hadmits]
  constructor
  · intro hsame
    have hnode : (grown.add (home ++ [s.fileName]) (.file (History.bytes records))).node?
        (home ++ [s.fileName]) = some (.file (History.bytes records)) := by
      rw [node?_add hnone, if_pos rfl]
    rw [← Timestamp.fileName_eq_iff.2 hsame, vacancyIn_of_taken hfree hnode]
  · intro hne
    have hname : t.fileName ≠ s.fileName := fun heq => hne (Timestamp.fileName_eq_iff.1 heq.symm)
    rw [vacancyIn_add_of_ne hname hnone, hfree₂]

end Behind

/-- What the name of a saved file says of its moment.
1. It is a fixed text around twelve digits.
2. Two moments have one name exactly if they agree in day, month, year within the century, hour,
   minute and the second that is shown, which is 60 for a leap second.
3. In any hundred years in a row, moments of one name are in one second.
4. Of two saves in one directory, the first of which made its file, the second is refused for that
   file exactly if their moments agree so, whatever was saved or made between them; and if they do
   not agree, the second gives what it would have given without the first.
5. So it is if the directory has another path in the second save, which would have made its file but
   for the file of the first. -/
theorem saves_collide_iff :
    (∀ t : Timestamp, ∃ digits, digits.length = 12 ∧ (∀ c ∈ digits, c.isDigit = true) ∧
        t.fileName = "calculator_history_".toList ++ digits ++ ".csv".toList) ∧
      (∀ s t : Timestamp, s.fileName = t.fileName ↔
        s.fields.day = t.fields.day ∧ s.fields.month = t.fields.month ∧
          s.fields.year % 100 = t.fields.year % 100 ∧ s.fields.hour = t.fields.hour ∧
          s.fields.minute = t.fields.minute ∧
          (if 1000000000 ≤ s.fields.nanosecond then 60 else s.fields.second) =
            if 1000000000 ≤ t.fields.nanosecond then 60 else t.fields.second) ∧
      (∀ (first : Int) (s t : Timestamp), first ≤ s.fields.year → s.fields.year < first + 100 →
        first ≤ t.fields.year → t.fields.year < first + 100 → s.fileName = t.fileName →
          s.whole = t.whole) ∧
      ∀ (tree after : FileTree) (dir path : Text) (records : List Record) (s : Timestamp),
        tree.save dir records s = (after, .ok path) →
        ∀ (records' : List Record) (t : Timestamp),
          (∀ later, Extends after later →
            ((later.save dir records' t).2 = .error (.file path .alreadyExists) ↔
              s.SameStamp t)) ∧
          (¬s.SameStamp t → (after.save dir records' t).2 = (tree.save dir records' t).2) ∧
          ∀ grown, tree.createDirectories dir = (grown, .ok ()) → ∀ dir' path',
            grown.walk (grown.start dir') (Path.names dir') =
              grown.walk (grown.start dir) (Path.names dir) →
            (grown.save dir' records' t).2 = .ok path' →
              (s.SameStamp t →
                (after.save dir' records' t).2 = .error (.file path' .alreadyExists)) ∧
              (¬s.SameStamp t → (after.save dir' records' t).2 = .ok path') := by
  refine ⟨fun t => ⟨t.stamp, t.length_stamp, fun _ => Timestamp.isDigit_of_mem_stamp, rfl⟩,
    fun s t => ?_, fun first s t hs hs' ht ht' hname => ?_,
    fun tree after dir path records s h records' t => ⟨fun later hlater => ?_, fun hne => ?_,
      fun grown hgrown dir' path' hdir halone => ?_⟩⟩
  · rw [Timestamp.fileName_eq_iff, ← s.shownSecond_eq, ← t.shownSecond_eq]
    exact ⟨fun h => ⟨h.day, h.month, h.yearOfCentury, h.hour, h.minute, h.shownSecond⟩,
      fun ⟨hday, hmonth, hyear, hhour, hminute, hsecond⟩ =>
        ⟨hday, hmonth, hyear, hhour, hminute, hsecond⟩⟩
  · exact Timestamp.whole_eq_of_sameStamp ⟨hs, hs'⟩ ⟨ht, ht'⟩ (Timestamp.fileName_eq_iff.1 hname)
  · exact save_blocked_iff h hlater records' t
  · exact result_save_behind h hne records'
  · exact save_behind_same_directory h hgrown hdir halone

/-- A leap second of 1999 and one of the year -1 have one name, and the second save is refused, also
on another way to the directory. A save a year later than the first is not. -/
theorem saves_collide_iff_centuries :
    let first : Timestamp := ⟨⟨1999, 12, 31, 23, 59, 59, 1500000000⟩, by decide⟩
    let second : Timestamp := ⟨⟨-1, 12, 31, 23, 59, 59, 1000000000⟩, by decide⟩
    let third : Timestamp := ⟨⟨2000, 12, 31, 23, 59, 59, 1500000000⟩, by decide⟩
    let dir := "a/../b".toList
    let name := "calculator_history_311299235960.csv".toList
    let tree := new ["home".toList]
    let after := (tree.save dir [] first).1
    first.fileName = second.fileName ∧ first.fileName ≠ third.fileName ∧
      (after.save dir [] second).2 = .error (.file (Path.join dir name) .alreadyExists) ∧
      (after.save dir [] third).2 = (tree.save dir [] third).2 ∧
      (after.save ['b'] [] second).2 = .error (.file (Path.join ['b'] name) .alreadyExists) := by
  intro first second third dir name tree after
  obtain ⟨-, hname, hblock, hsaves⟩ := saves_collide_iff
  have hsave : tree.save dir [] first = (after, .ok (Path.join dir name)) :=
    Prod.ext rfl (by decide +kernel)
  have hgrown : tree.createDirectories dir = ((tree.createDirectories dir).1, .ok ()) :=
    Prod.ext rfl (by decide +kernel)
  have hsecond : first.fileName = second.fileName := (hname first second).2 (by decide)
  have hthird : first.fileName ≠ third.fileName := fun heq =>
    absurd (hblock 1999 first third (by decide) (by decide) (by decide) (by decide) heq) (by decide)
  have hsame : first.SameStamp second := Timestamp.fileName_eq_iff.1 hsecond
  obtain ⟨hblocked, -, hother⟩ := hsaves tree after dir _ [] first hsave [] second
  obtain ⟨-, hfree, -⟩ := hsaves tree after dir _ [] first hsave [] third
  exact ⟨hsecond, hthird, (hblocked after (Extends.refl after)).2 hsame,
    hfree fun hsame => hthird (Timestamp.fileName_eq_iff.2 hsame),
    (hother _ hgrown ['b'] _ (by decide +kernel) (by decide +kernel)).1 hsame⟩

end FileTree

end Abacus
