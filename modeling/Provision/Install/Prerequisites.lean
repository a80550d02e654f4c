/-
  Provision.Install.Prerequisites
  ───────────────────────────────
  **MAKING SURE OF SINGLE TOOLS.**

  A tool that is on the search path is left alone unless the run installs
  again what is there.  A missing tool is installed with the package manager
  of the platform; Windows has none, so that a missing JDK ends the run there
  and the other tools are taken to be provided by hand.
-/
import Provision.Install.NodeJs

namespace Provision

namespace Prerequisites

/-! ## §1. The download utility. -/

/-- Install the download utility. -/
def installDownloadUtility (ctx : Context) (install : String → Procedure Unit) :
    Procedure Unit :=
  ctx.whenNeeded .downloadUtility do
    Procedure.step "Installing wget"
    install "wget"

/-! ## §2. The JDK. -/

/-- Install the JDK with apt. -/
def installJdkPackage (ctx : Context) : Procedure Unit :=
  ctx.whenNeeded .javaCompiler do
    Procedure.step ("Installing " ++ ctx.settings.jdkPackage)
    ctx.aptInstall ctx.settings.jdkPackage

/-- Install the JDK with Homebrew, which has to be there itself. -/
def installJdkFormula (ctx : Context) : Procedure Unit :=
  ctx.whenNeeded .javaCompiler do
    let version ← ToolVersion.homebrew
    if version == ToolVersion.notAvailable then
      .fail (.missingPrerequisite "brew"
        "Homebrew not installed. Install it from https://brew.sh and re-run.")
    else
      Procedure.log .debug .macOS ("Homebrew " ++ version)
      Procedure.step ("Installing " ++ ctx.settings.jdkFormula)
      Context.brewInstall ctx.settings.jdkFormula

/-- Make sure that there is a JDK, which is never installed on Windows. -/
def requireJdk (ctx : Context) : Procedure Unit := do
  match ← Procedure.locate Prerequisite.javaCompiler.binary with
  | some path =>
      if ctx.config.force then
        Procedure.tell
          (.warning ("No automated JDK install on Windows; keeping " ++ path.text))
  | none =>
      .fail (.missingPrerequisite Prerequisite.javaCompiler.binary
        ("javac not found on PATH. Please install JDK " ++ toString ctx.settings.jdkVersion.toNat
          ++ " appropriate for your operating system."))

/-! ## §3. Any of them. -/

/-- A tool that is provided by hand. -/
def providedByHand (kind : Prerequisite) : Procedure Unit :=
  Procedure.log .debug .windows (kind.binary ++ " is provisioned externally on Windows")

/-- Make sure that a tool is there. -/
def ensure (ctx : Context) (kind : Prerequisite) : Procedure Unit :=
  match ctx.target.os, kind with
  | .windows, .javaCompiler => requireJdk ctx
  | .windows, kind => providedByHand kind
  | _, .jsRuntime => NodeJs.install ctx
  | .linux, .downloadUtility => installDownloadUtility ctx ctx.aptInstall
  | .linux, .javaCompiler => installJdkPackage ctx
  | .macOS, .downloadUtility => installDownloadUtility ctx Context.brewInstall
  | .macOS, .javaCompiler => installJdkFormula ctx

end Prerequisites

end Provision
