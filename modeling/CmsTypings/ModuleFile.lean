import CmsTypings.Disk.Basic
import CmsTypings.Drift.Search
import CmsTypings.Log

/-!
The file of the generated module: where it stands in a project, how it is written, and how far the
file that is there has drifted from the module.
-/

namespace CmsTypings.ModuleFile

open Disk

def directory (root : Path) : Path := root.join "types"

def location : String := "types/contentTypes.d.ts"

def path (root : Path) : Path := root.join location

/-- Writes the module of a project. -/
def write (disk : Disk) (root : Path) (text : String) : Disk × Except IoFault Unit :=
  disk.writeWithin (path root) text

/-- How a text differs from the file at a path, where a missing file counts as empty. -/
def drift? (view : View) (path : Path) (text : String) : Except IoFault (Option String) :=
  match view path with
  | .ok existing => .ok (Drift.report? existing text)
  | .error .notFound => .ok (Drift.report? "" text)
  | .error fault => .error fault

def writtenNote (path : Path) : Log.Note := ⟨.debug, ["output"], "Wrote " ++ path.text⟩

end CmsTypings.ModuleFile
