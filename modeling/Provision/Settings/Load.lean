/-
  Provision.Settings.Load
  ───────────────────────
  **WHICH SETTINGS A RUN USES.**

  A file that is named for the run must exist and is the only one that is
  read.  Otherwise the file of the project is read if there is one, and the
  defaults hold if there is none.  A file that is chosen and cannot be read
  ends the run; nothing else takes its place.
-/
import Provision.Procedure
import Provision.Settings.Decode
import Provision.Text.Utf8

namespace Provision

namespace Settings

/-- Where a project keeps its settings. -/
def projectFile (root : Path) : Path := root.join ⟨".servedeps/config.yml"⟩

/-- The settings file of a project, if there is one. -/
def findProjectFile (root : Path) : Procedure (Option Path) := do
  if ← Procedure.doesExist (projectFile root) then return some (projectFile root)
  else return none

/-- The settings in the bytes of a file. -/
def ofBytes (path : Path) (bytes : ByteArray) : Except Failure Settings :=
  match Text.Utf8.text? bytes with
  | none => .error (.io .notUtf8)
  | some text =>
      match ofText text with
      | .ok s => .ok s
      | .error fault => .error (.settingsUnreadable path fault.message)

/-- Load the settings of a file. -/
def loadFile (path : Path) : Procedure Settings := do
  Procedure.log .debug .settings ("Loading settings from " ++ path.text)
  let bytes ← Procedure.read path
  Procedure.ofExcept (ofBytes path bytes)

/-- Load the settings of a run. -/
def load (root : Path) (named : Option Path) : Procedure Settings := do
  match named with
  | some path =>
      if ← Procedure.doesExist path then loadFile path
      else .fail (.settingsNotFound path)
  | none =>
      match ← findProjectFile root with
      | some path => loadFile path
      | none =>
          Procedure.log .debug .settings "No settings file, using defaults"
          return defaults

end Settings

end Provision
