/-
  Provision.Host.SearchPath
  ─────────────────────────
  **LOOKING FOR TOOLS.**

  A tool is looked for in the directories of a search path, from left to
  right: the first one that holds a regular file of that name with a
  permission to execute has it.  Directories, files without the permission
  and missing places never hide a later one.

  Main results:

    `locate_append`     the directories in front are asked first
    `locate_eq_none`    a tool is missing iff no directory has it
-/
import Provision.FileSystem

namespace Provision

namespace FileSystem

/-- The tool in the first directory that has it. -/
def locate (fs : FileSystem) (cwd : List String) (directories : List Path) (tool : String) :
    Option Path :=
  (directories.map fun d => d.join ⟨tool⟩).find? (fs.isTool cwd)

/-- Is the tool in one of the directories? -/
def isPresent (fs : FileSystem) (cwd : List String) (directories : List Path) (tool : String) :
    Bool :=
  (fs.locate cwd directories tool).isSome

/-- A longer search path goes on where the first part found nothing. -/
theorem locate_append (fs : FileSystem) (cwd : List String) (ds es : List Path)
    (tool : String) :
    fs.locate cwd (ds ++ es) tool = (fs.locate cwd ds tool).or (fs.locate cwd es tool) := by
  simp [locate, List.find?_append]

/-- A tool is missing when no directory of the path has it. -/
theorem locate_eq_none (fs : FileSystem) (cwd : List String) (ds : List Path)
    (tool : String) :
    fs.locate cwd ds tool = none ↔ ∀ d ∈ ds, fs.isTool cwd (d.join ⟨tool⟩) = false := by
  simp [locate]

end FileSystem

/-- A host on which exactly these tools are present, all in one directory. -/
def locateAmong (present : List String) (tool : String) : Option Path :=
  if present.contains tool then some (Path.join ⟨"/usr/bin"⟩ ⟨tool⟩) else none

end Provision
