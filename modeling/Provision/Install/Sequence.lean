/-
  Provision.Install.Sequence
  ──────────────────────────
  **THE ORDER OF AN INSTALLATION.**

  The interpreter is checked first, unless the run only shows what it would
  do.  A developer's host then gets the download utility, Node.js, the npm
  tools and the native library; every host gets the JDK and after it the
  Python packages, some of which expect it.  The first failure ends the run.
-/
import Provision.Install.Prerequisites
import Provision.Install.NativeBuild
import Provision.Install.PythonPackages

namespace Provision

namespace Sequence

/-! ## §1. The interpreter. -/

/-- The oldest Python release that is supported. -/
def oldestPython : ToolVersion.Release := ⟨3, 8⟩

/-- Fail unless the interpreter is recent enough. -/
def checkPython (ctx : Context) : Procedure Unit := do
  let python := ctx.settings.python
  match ← ToolVersion.python python with
  | some release =>
      if release.atLeast oldestPython then
        Procedure.log .debug .sequence (python ++ " is Python " ++ release.text)
      else
        .fail (.missingPrerequisite "python"
          (python ++ " is Python " ++ release.text ++ "; Python " ++ oldestPython.text
            ++ " or newer is required"))
  | none =>
      .fail (.missingPrerequisite "python"
        ("Could not run '" ++ python ++ " --version'. Install Python " ++ oldestPython.text
          ++ "+ or pass --python"))

/-! ## §2. The whole installation. -/

/-- What is done once before any step. -/
def prepare (ctx : Context) : Procedure Unit :=
  match ctx.target.os with
  | .linux =>
      if ctx.config.force then do
        Procedure.step "Refreshing apt package index"
        Procedure.run (ctx.elevated "apt-get" ["update"])
      else return ()
  | _ => return ()

/-- The steps for a developer's host. -/
def developerTools (ctx : Context) : Procedure Unit := do
  Prerequisites.ensure ctx .downloadUtility
  NodeJs.install ctx
  NodeJs.installTooling ctx
  if ctx.target.os == .linux then NativeBuild.install ctx ctx.settings.nativeLibrary

/-- Install every dependency. -/
def install (ctx : Context) : Procedure Unit := do
  Procedure.log .info .sequence
    ("Installing " ++ ctx.config.environment.display ++ " dependencies for "
      ++ ctx.target.os.display)
  if ctx.config.dryRun then
    Procedure.log .debug .sequence "Skipping Python version check in dry-run mode"
  else checkPython ctx
  prepare ctx
  if ctx.config.isDev then developerTools ctx
  Prerequisites.ensure ctx .javaCompiler
  PythonPackages.install ctx ctx.config.accelerator ctx.config.requirementsPath
    ctx.config.nightly

end Sequence

end Provision
