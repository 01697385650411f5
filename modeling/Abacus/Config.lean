import Abacus.FileTree.Basic
import Abacus.Log.Level

/-!
# Configuration

What is chosen at the start of the program: where histories go and how much is logged.
-/

namespace Abacus

/-- The choices at the start of the program. -/
structure Config where
  /-- The directory under which the directory of histories lies. -/
  basePath : Text
  /-- The least severe level that is logged. -/
  level : Log.Level

namespace Config

/-- The name of the directory of histories. -/
def historyDirName : Text :=
  "csv_history".toList

/-- The choices where none are made. -/
def standard : Config :=
  ⟨".".toList, .standard⟩

/-- The directory in which histories are saved. -/
def historyDir (config : Config) : Text :=
  Path.join config.basePath historyDirName

end Config

end Abacus
