/-
  Provision.Run
  ─────────────
  **A RUN OF THE PROGRAM.**

  A run resolves the project root once, loads the settings, makes a scratch
  directory and installs; the scratch directory goes when the run ends.  A dry
  run is the same procedure on a host that shows commands instead of running
  them, so that what it shows is what a real run does.

  Main results:

    `projectRoot_absolute`   a root that is named by an absolute path does not
                             depend on the working directory
    `temporaryDirectory_set` scratch directories go where the environment says
-/
import Provision.CommandLine.Arguments
import Provision.Install.Sequence
import Provision.Settings.Load

namespace Provision

open Provision.CommandLine

/-! ## §1. Surroundings. -/

/-- What a run finds when it starts. -/
structure Surroundings where
  /-- The working directory. -/
  directory : Path
  /-- The value of a variable of the environment, if it is set. -/
  valueOf : String → Option String := fun _ => none
  /-- Does the user have the rights of the administrator? -/
  administrator : Bool := true
  os : Os := .linux

namespace Surroundings

/-- Where scratch directories go. -/
def temporaryDirectory (w : Surroundings) : Path :=
  ((w.valueOf "TMPDIR").map Path.mk).getD ⟨"/tmp"⟩

/-- The variable decides where temporary files go. -/
theorem temporaryDirectory_set {w : Surroundings} {text : String}
    (h : w.valueOf "TMPDIR" = some text) : w.temporaryDirectory = ⟨text⟩ := by
  simp [temporaryDirectory, h]

/-- What the environment, or an option in its place, says about colours. -/
def noColor (w : Surroundings) (a : Arguments) : Option String :=
  if a.noColor then some "1" else w.valueOf "NO_COLOR"

end Surroundings

namespace Run

/-! ## §2. The project root. -/

/-- The project root: the named one resolved against the working directory,
or the working directory itself. -/
def projectRoot (directory : Path) : Option Path → Except Failure Path
  | none => .ok directory
  | some p =>
      match Path.absolute? directory p with
      | some root => .ok root
      | none => .error (.io .emptyPath)

/-- An absolute root does not depend on the working directory. -/
theorem projectRoot_absolute {p : Path} (h : p.isAbsolute = true) (d e : Path) :
    projectRoot d (some p) = projectRoot e (some p) := by
  have hb : p.base d = p.base e := by
    unfold Path.base
    unfold Path.isAbsolute at h
    split
    · rfl
    · rfl
    · rfl
    · cases ht : p.text.toList <;> simp_all
  simp only [projectRoot, Path.absolute?, hb]

/-! ## §3. The installation. -/

/-- The settings with another interpreter, if one is named. -/
def withInterpreter (s : Settings) : Option String → Settings
  | some python => { s with python := python }
  | none => s

/-- What a run says at its end. -/
def farewell (dryRun : Bool) : String :=
  if dryRun then "Dry run complete" else "All dependencies installed"

/-- Install in a scratch directory. -/
def installIn (target : Target) (config : InstallConfig) (settings : Settings)
    (scratch : Path) : Procedure Unit := do
  Procedure.tell (.header
    ("Installing " ++ config.environment.display ++ " dependencies (" ++ target.os.display
      ++ ")"))
  Sequence.install ⟨target, config, settings, scratch⟩
  Procedure.tell (.success (farewell config.dryRun))

/-- A run with its arguments. -/
def install (w : Surroundings) (a : Arguments) : Procedure Unit := do
  let root ← Procedure.ofExcept (projectRoot w.directory a.project)
  let settings ← Settings.load root a.config
  let os := a.targetOs w.os
  Procedure.log .debug .commandLine
    ("Target platform: " ++ os.display ++ " (" ++ os.systemName ++ ")")
  Procedure.withDirectory w.temporaryDirectory "servedeps-"
    (installIn (.forUser os w.administrator) (a.installConfig root)
      (withInterpreter settings a.python))

/-- The host of a run: a dry run only rehearses, a real one announces its
commands. -/
def layer {σ : Type} (a : Arguments) (host : Host σ) : Host σ :=
  if a.dryRun then rehearsing host else announcing host

/-! ## §4. The program. -/

/-- Tell the user what went wrong. -/
def report : Except Failure Unit → Procedure Unit
  | .ok _ => return ()
  | .error f => Procedure.tell (.failure ("Error: " ++ f.message))

/-- The run as the user sees it: a failure is told, and the answer is the exit
code. -/
def program (w : Surroundings) (a : Arguments) : Procedure Nat := do
  Procedure.log .debug .program ("servedeps starting with args: " ++ a.debugText)
  let result ← (install w a).attempt
  report result
  return exitCodeOf result

end Run

end Provision
