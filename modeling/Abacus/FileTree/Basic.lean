import Abacus.Text.Runs
import Abacus.Text.Utf8

/-!
# File trees

The files and directories there are, each at its place from the root, and the directory in which
relative paths start. Nodes are only ever added, behind those that there are.

A path is followed name by name. `.` stays, `..` goes up, and every other name must be that of a
directory. `FileTree.vacancy` finds the place of a new node, and says why there is none.
-/

namespace Abacus

/-- Why the system refuses to create something. -/
inductive FileFault where
  | notFound
  | alreadyExists
  | notDirectory
  | nameTooLong
  | nulByte
  deriving DecidableEq

/-- The wording of a refusal. -/
def FileFault.message : FileFault → Text
  | notFound => "No such file or directory (os error 2)".toList
  | alreadyExists => "File exists (os error 17)".toList
  | notDirectory => "Not a directory (os error 20)".toList
  | nameTooLong => "File name too long (os error 36)".toList
  | nulByte => "file name contained an unexpected NUL byte".toList

/-- What is at a place. -/
inductive Node where
  | directory
  | file (content : Bytes)
  deriving DecidableEq

/-- The names on the way from the root. -/
abbrev Place := List Text

/-- The nodes of a file system but for its root, oldest first, and the working directory. -/
structure FileTree where
  nodes : List (Place × Node)
  workplace : Place

/-! ## Paths -/

namespace Path

/-- The names of a path. -/
def names (path : Text) : List Text :=
  runs (· ≠ '/') path

/-- The path starts at the root. -/
def isAbsolute (path : Text) : Bool :=
  path.head? == some '/'

/-- A name in a directory; a separator is put between them where there is none. -/
def join (dir name : Text) : Text :=
  if dir = [] ∨ dir.getLast? = some '/' then dir ++ name else dir ++ '/' :: name

/-- The bytes that a text takes in the file system. -/
def size (text : Text) : Nat :=
  (Utf8.encode text).length

/-- The names without those at the end that stay in place. -/
def dropStays (names : List Text) : List Text :=
  (names.reverse.dropWhile (· = ['.'])).reverse

/-- The names of the directory that holds the last name. -/
def parent (names : List Text) : List Text :=
  dropStays (dropStays names).dropLast

theorem length_dropStays_le (names : List Text) : (dropStays names).length ≤ names.length := by
  have h := (List.dropWhile_sublist (fun name : Text => decide (name = ['.'])) (l := names.reverse))
  simpa [dropStays] using h.length_le

theorem length_parent_lt {names : List Text} (h : parent names ≠ []) :
    (parent names).length < names.length := by
  have h1 := length_dropStays_le names
  have h2 := length_dropStays_le (dropStays names).dropLast
  have h3 : 0 < (parent names).length := List.length_pos_iff.2 h
  simp only [parent, List.length_dropLast] at *
  omega

end Path

namespace FileTree

/-- A tree that holds the directories on the way to the working directory and nothing else. -/
def new (workplace : Place) : FileTree :=
  ⟨(List.range workplace.length).map fun n => (workplace.take (n + 1), .directory), workplace⟩

/-- What is at a place. -/
def node? (tree : FileTree) (place : Place) : Option Node :=
  if place = [] then some .directory else tree.nodes.lookup place

/-- A tree with one node more. -/
def add (tree : FileTree) (place : Place) (node : Node) : FileTree :=
  ⟨tree.nodes ++ [(place, node)], tree.workplace⟩

/-- The place where a path starts. -/
def start (tree : FileTree) (path : Text) : Place :=
  if Path.isAbsolute path then [] else tree.workplace

/-- The directory that names lead to from a directory. -/
def walk (tree : FileTree) (here : Place) : List Text → Except FileFault Place
  | [] => .ok here
  | name :: rest =>
    if name = ['.'] then tree.walk here rest
    else if name = ['.', '.'] then tree.walk here.dropLast rest
    else if 255 < Path.size name then .error .nameTooLong
    else
      match tree.node? (here ++ [name]) with
      | none => .error .notFound
      | some (.file _) => .error .notDirectory
      | some .directory => tree.walk (here ++ [name]) rest

/-- Names lead to a directory. -/
def isDirectory (tree : FileTree) (here : Place) (names : List Text) : Bool :=
  (tree.walk here names).toBool

/-- The place of a name in a directory, if nothing is there yet. -/
def vacancyIn (tree : FileTree) (here : Place) (name : Text) : Except FileFault Place :=
  if name = ['.'] ∨ name = ['.', '.'] then .error .alreadyExists
  else if 255 < Path.size name then .error .nameTooLong
  else
    match tree.node? (here ++ [name]) with
    | some _ => .error .alreadyExists
    | none => .ok (here ++ [name])

/-- The place of a new node under names that start in a directory. -/
def vacancy (tree : FileTree) (here : Place) (names : List Text) : Except FileFault Place :=
  match names.getLast? with
  | none => .error .alreadyExists
  | some name =>
    match tree.walk here names.dropLast with
    | .ok dir => tree.vacancyIn dir name
    | .error fault => .error fault

/-- A path that the system takes at all: without a NUL and not too long. -/
def admits (path : Text) : Except FileFault Unit :=
  if '\x00' ∈ path then .error .nulByte
  else if 4096 ≤ Path.size path then .error .nameTooLong
  else .ok ()

/-! ## Creation -/

/-- Makes one directory. -/
def makeDirectory (tree : FileTree) (here : Place) (names : List Text) :
    Except FileFault FileTree :=
  (tree.vacancy here names).map (tree.add · .directory)

/-- Makes one directory unless it is there. -/
def ensureDirectory (tree : FileTree) (here : Place) (names : List Text) :
    Except FileFault FileTree :=
  match tree.makeDirectory here names with
  | .ok tree' => .ok tree'
  | .error fault => if tree.isDirectory here names then .ok tree else .error fault

/-- Makes a directory and those on the way to it that are not there. What was made stays when a
later one is refused. -/
def ensureDirectories (tree : FileTree) (here : Place) (names : List Text) :
    FileTree × Except FileFault Unit :=
  match tree.ensureDirectory here names with
  | .ok tree' => (tree', .ok ())
  | .error .notFound =>
    if Path.parent names = [] then
      (tree, .error .notFound)
    else
      match tree.ensureDirectories here (Path.parent names) with
      | (tree', .error fault) => (tree', .error fault)
      | (tree', .ok ()) =>
        match tree'.ensureDirectory here names with
        | .ok tree'' => (tree'', .ok ())
        | .error fault => (tree', .error fault)
  | .error fault => (tree, .error fault)
termination_by names.length
decreasing_by exact Path.length_parent_lt ‹_›

/-- Makes the directory of a path and those on the way to it. The empty path and the root need
nothing. -/
def createDirectories (tree : FileTree) (path : Text) : FileTree × Except FileFault Unit :=
  if Path.names path = [] then
    (tree, .ok ())
  else
    match admits path with
    | .error fault => (tree, .error fault)
    | .ok () => tree.ensureDirectories (tree.start path) (Path.names path)

/-- Makes a new file; one that is there is not touched. -/
def createFile (tree : FileTree) (path : Text) (content : Bytes) : Except FileFault FileTree :=
  match admits path with
  | .error fault => .error fault
  | .ok () =>
    (tree.vacancy (tree.start path) (Path.names path)).map (tree.add · (.file content))

/-! ## Listing -/

/-- The path below a directory, if a place is below it. -/
def below? (dir place : Place) : Option Place :=
  if dir.isPrefixOf place ∧ dir.length < place.length then some (place.drop dir.length) else none

/-- The nodes below the working directory with their paths from there, oldest first. -/
def listing (tree : FileTree) : List (Text × Node) :=
  tree.nodes.filterMap fun entry =>
    (below? tree.workplace entry.1).map fun names => (['/'].intercalate names, entry.2)

end FileTree

end Abacus
