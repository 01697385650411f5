import Abacus.FileTree.Basic
import Abacus.History.Write
import Abacus.Timestamp

/-!
# Saving a history

A history is saved in a directory, which is made if it is missing, as a new file named for the
moment. An existing file of that name is an error, so earlier histories are never overwritten. A
disk may refuse the content of a file that was made; then the file stays, with what went through.
-/

namespace Abacus

/-- Why a history was not saved. -/
inductive SaveError where
  | directory (dir : Text) (fault : FileFault)
  | file (path : Text) (fault : FileFault)
  /-- The file was made, but its content did not all go through. -/
  | content (path reason : Text)
  deriving DecidableEq

/-- The report that a directory was not made, and why. -/
def SaveError.directoryChain (dir reason : Text) : List Text :=
  ["Failed to create history directory: ".toList ++ dir, reason]

/-- The report that a file was not made, and why. -/
def SaveError.fileChain (path reason : Text) : List Text :=
  ["Failed to create output file: ".toList ++ path, reason]

/-- The report that the content of a file was not written, and why. -/
def SaveError.contentChain (path reason : Text) : List Text :=
  ["Failed to write history to ".toList ++ path, reason]

/-- The wordings of an error and its cause, the outermost first. -/
def SaveError.chain : SaveError → List Text
  | directory dir fault => directoryChain dir fault.message
  | file path fault => fileChain path fault.message
  | content path reason => contentChain path reason

/-- The path at which a history is saved in a directory at a moment. -/
def savePath (dir : Text) (now : Timestamp) : Text :=
  Path.join dir now.fileName

namespace FileTree

/-- Saves a history in a directory on a disk with some room for it: the tree afterwards, and the
path of the new file. -/
def saveOn (disk : Room) (tree : FileTree) (dir : Text) (records : List Record) (now : Timestamp) :
    FileTree × Except SaveError Text :=
  match tree.createDirectories dir with
  | (tree', .error fault) => (tree', .error (.directory dir fault))
  | (tree', .ok ()) =>
    let path := savePath dir now
    let writing := History.write disk records
    match tree'.createFile path writing.output with
    | .error fault => (tree', .error (.file path fault))
    | .ok tree'' =>
      match writing.result with
      | .ok _ => (tree'', .ok path)
      | .error reason => (tree'', .error (.content path reason))

/-- Saves a history in a directory on a disk that takes all of it. -/
def save (tree : FileTree) (dir : Text) (records : List Record) (now : Timestamp) :
    FileTree × Except SaveError Text :=
  tree.saveOn .unlimited dir records now

end FileTree

end Abacus
