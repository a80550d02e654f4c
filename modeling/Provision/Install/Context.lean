/-
  Provision.Install.Context
  ─────────────────────────
  **WHAT EVERY STEP KNOWS.**

  A step knows the platform that it installs for, the options and settings of
  the run, and a scratch directory.  The platform decides how a step is done;
  commands that need the rights of the administrator are put behind its
  privilege prefix.

  Main results:

    `privilege_windows`    nothing is elevated on Windows
-/
import Provision.Platform
import Provision.Prerequisite
import Provision.Settings
import Provision.ToolVersion

namespace Provision

/-! ## §1. The platform. -/

/-- An operating system with the prefix for commands that need the rights of
the administrator. -/
structure Target where
  os : Os
  /-- The prefix, where the system knows one. -/
  elevation : Option String := none
  deriving DecidableEq, Repr, Inhabited

namespace Target

/-- The prefix for commands that need the rights of the administrator. -/
def privilege (t : Target) : Option String :=
  match t.os with
  | .windows => none
  | _ => t.elevation

/-- There is no prefix on Windows. -/
theorem privilege_windows (e : Option String) : privilege ⟨.windows, e⟩ = none := rfl

/-- The platform for the current user: no prefix for the administrator. -/
def forUser (os : Os) (administrator : Bool) : Target :=
  ⟨os, if administrator then none else some "sudo"⟩

end Target

/-! ## §2. The context of a step. -/

/-- What every step knows. -/
structure Context where
  target : Target
  config : InstallConfig
  settings : Settings
  /-- Where downloads and builds go. -/
  scratch : Path
  deriving Inhabited

namespace Context

/-- A command that needs the rights of the administrator. -/
def elevated (ctx : Context) (program : String) (arguments : List String) : Command :=
  .elevated ctx.target.privilege program arguments none

/-- Install a package with apt. -/
def aptInstall (ctx : Context) (package : String) : Procedure Unit :=
  .run (ctx.elevated "apt-get" ["install", "-y", package])

/-- Install a formula with Homebrew. -/
def brewInstall (formula : String) : Procedure Unit :=
  .run ⟨"brew", ["install", formula], none⟩

/-- Does the tool have to be installed?  It does if it is missing, or if the
run installs again what is there. -/
def needsInstall (ctx : Context) (kind : Prerequisite) : Procedure Bool := do
  match ← Procedure.locate kind.binary with
  | none =>
      Procedure.log .debug .steps (kind.binary ++ " not found on PATH")
      return true
  | some path =>
      if ctx.config.force then
        Procedure.log .debug .steps
          ("Reinstalling " ++ kind.binary ++ " at " ++ path.text ++ " (--force)")
        return true
      else
        Procedure.tell (.skipped (kind.binary ++ " already installed at " ++ path.text))
        return false

/-- Do `install` if the tool has to be installed. -/
def whenNeeded (ctx : Context) (kind : Prerequisite) (install : Procedure Unit) :
    Procedure Unit := do
  if ← ctx.needsInstall kind then install

end Context

end Provision
