/-
  Provision.Install.NodeJs
  ────────────────────────
  **NODE.JS AND THE NPM TOOLS.**

  On hosts with apt the set-up script of the package source is downloaded
  into a new file, run with the rights of the administrator and removed
  again, whatever becomes of it.  On macOS the pinned formula is linked in the
  place of the one that is there.  On Windows Node.js is provided by hand.
-/
import Provision.Install.Context

namespace Provision

namespace NodeJs

/-! ## §1. Node.js on hosts with apt. -/

/-- Download what is at an address and show how that goes. -/
def download (url : String) : Procedure ByteArray := do
  Procedure.tell (.progress ("Downloading " ++ url))
  match ← Procedure.fetch url with
  | .ok body =>
      Procedure.tell (.progress ("Downloaded " ++ url))
      return body
  | .error e =>
      Procedure.tell (.progress ("Download failed: " ++ url))
      .fail e

/-- Set up the package source from its script, and install from it. -/
def installFromSource (ctx : Context) : Procedure Unit := do
  Procedure.step
    ("Installing Node.js " ++ toString ctx.settings.nodeMajor.toNat ++ " from NodeSource")
  let script ← download ctx.settings.nodesourceUrl
  Procedure.withFile ctx.scratch "nodesource-setup" ".sh" script fun path => do
    Procedure.run (ctx.elevated "bash" [path.text])
    ctx.aptInstall "nodejs"

/-! ## §2. Node.js on macOS. -/

/-- Take the formula that is there out of the way, then install and link the
pinned one. -/
def relinkFormula (ctx : Context) : Procedure Unit := do
  let formula := ctx.settings.nodeFormula
  Procedure.step ("Installing " ++ formula)
  if (← Procedure.locate Prerequisite.jsRuntime.binary).isSome then
    Procedure.run ⟨"brew", ["unlink", "node"], none⟩
  Context.brewInstall formula
  Procedure.run ⟨"brew", ["link", "--overwrite", formula], none⟩

/-! ## §3. Every platform. -/

/-- Install the pinned Node.js release. -/
def install (ctx : Context) : Procedure Unit :=
  match ctx.target.os with
  | .linux => ctx.whenNeeded .jsRuntime (installFromSource ctx)
  | .macOS => relinkFormula ctx
  | .windows =>
      Procedure.log .debug .windows "Node.js is provisioned externally on Windows"

/-- The command that installs the npm tools. -/
def toolingCommand (ctx : Context) : Command :=
  match ctx.target.os with
  | .macOS =>
      let root := ctx.config.projectRoot
      .elevated ctx.target.privilege (root.join ⟨ctx.settings.macNpmScript⟩).text [] (some root)
  | _ => ctx.elevated "npm" (["install", "-g"] ++ ctx.settings.npmPackages)

/-- Install the npm tools of the test suite. -/
def installTooling (ctx : Context) : Procedure Unit := do
  Procedure.step "Installing npm tools"
  Procedure.run (toolingCommand ctx)

end NodeJs

end Provision
