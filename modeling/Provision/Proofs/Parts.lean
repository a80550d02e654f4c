/-
  Provision.Proofs.Parts
  ──────────────────────
  **THE PARTS OF AN INSTALLATION.**

  Every step of an installation is written as one part after another, each of
  them a request or a step of its own.  A proof about all steps follows this
  cut and never opens the branches of a step a second time.

  Main results:

    `ToolVersion.leads_ask_version`  a question is one captured command
    `Sequence.install_eq`    the interpreter's check, then the steps
    `PythonPackages.installFor_eq`   the parts of the package step
-/
import Provision.Install.Sequence
import Provision.Proofs.Account

namespace Provision

/-! ## §1. Conditional parts. -/

namespace Procedure

variable {α β γ : Type}

/-- Do `p` if the condition holds. -/
def when (c : Bool) (p : Procedure Unit) : Procedure Unit := if c then p else .done ()

/-- A condition that only guards the first of two parts. -/
theorem when_bind (c : Bool) (p : Procedure Unit) (f : Unit → Procedure α) :
    (when c p).bind f = if c then p.bind f else f () := by
  cases c <;> rfl

/-- Sequences may be cut anywhere. -/
theorem bind_assoc (p : Procedure α) (f : α → Procedure β) (g : β → Procedure γ) :
    (p.bind f).bind g = p.bind fun a => (f a).bind g := by
  induction p with
  | done a => rfl
  | fail e => rfl
  | ask r k ih =>
      simp only [bind]
      congr 1
      funext x
      exact ih x

/-- One request that is no call, whatever its answer. -/
theorem leads_quiet {q : Request} {a : α} {E : Account} {r : Except Failure α}
    (hq : q.isCall = false) (h : (Procedure.ask q fun _ => .done a).Leads E r) :
    (∀ e ∈ E, e.request.isCall = false) ∧ r = .ok a := by
  obtain ⟨x, F, rfl, hend⟩ := leads_ask.mp h
  obtain ⟨rfl, rfl⟩ := leads_done.mp hend
  refine ⟨fun e he => ?_, rfl⟩
  rw [List.mem_singleton.mp he]
  exact hq

end Procedure

open Procedure

/-! ## §2. Tools. -/

namespace ToolVersion

/-- What an answer tells: nothing, if the tool did not start or failed. -/
def found (p : Pattern) : Except Failure Captured → Option String
  | .error _ => none
  | .ok r => if r.succeeded then r.firstGroup? p else none

/-- **A question is one captured command**, and its result is what the answer
tells. -/
theorem leads_ask_version {c : Command} {p : Pattern} {E : Account}
    {r : Except Failure (Option String)} (h : (ask c p).Leads E r) :
    ∃ (answer : Except Failure Captured) (F : Account), E = ⟨.capture c, answer⟩ :: F
      ∧ r = .ok (found p answer) ∧ ∀ e ∈ F, e.request.isCall = false := by
  obtain ⟨answer, F, rfl, hnext⟩ := leads_ask.mp h
  refine ⟨answer, F, rfl, ?_⟩
  cases answer with
  | error e =>
      obtain ⟨rfl, rfl⟩ := leads_done.mp hnext
      exact ⟨rfl, fun e he => absurd he List.not_mem_nil⟩
  | ok captured =>
      change (if captured.succeeded then _ else _ : Procedure _).Leads F _ at hnext
      rw [found]
      split at hnext
      · obtain ⟨rfl, rfl⟩ := leads_done.mp hnext
        rw [if_pos ‹_›]
        exact ⟨rfl, fun e he => absurd he List.not_mem_nil⟩
      · -- A tool that failed is noted in the log.
        obtain ⟨hquiet, rfl⟩ := leads_quiet rfl hnext
        rw [if_neg ‹_›]
        exact ⟨rfl, hquiet⟩

end ToolVersion

namespace Context

/-- A step that is needed or left out, as a step on a condition. -/
theorem whenNeeded_eq (ctx : Context) (kind : Prerequisite) (install : Procedure Unit) :
    ctx.whenNeeded kind install
      = (ctx.needsInstall kind).bind fun needed => when needed install := rfl

end Context

namespace NodeJs

/-- Take the formula that is there out of the way. -/
def unlinkPresent : Procedure Unit :=
  (locate "node").bind fun found =>
    when found.isSome (Procedure.run ⟨"brew", ["unlink", "node"], none⟩)

/-- Node.js on macOS: away with the old formula, then the new one, then the
links. -/
theorem relinkFormula_eq (ctx : Context) :
    relinkFormula ctx
      = (step ("Installing " ++ ctx.settings.nodeFormula)).bind fun _ =>
          unlinkPresent.bind fun _ =>
            (Context.brewInstall ctx.settings.nodeFormula).bind fun _ =>
              Procedure.run ⟨"brew", ["link", "--overwrite", ctx.settings.nodeFormula], none⟩ := by
  simp only [relinkFormula, unlinkPresent, bind_assoc, when_bind]
  rfl

end NodeJs

namespace Prerequisites

/-- Ask Homebrew for its version, then let it install the JDK. -/
def brewJdk (ctx : Context) : Procedure Unit :=
  ToolVersion.homebrew.bind fun version =>
    if version == ToolVersion.notAvailable then
      .fail (.missingPrerequisite "brew"
        "Homebrew not installed. Install it from https://brew.sh and re-run.")
    else
      (log .debug .macOS ("Homebrew " ++ version)).bind fun _ =>
        (step ("Installing " ++ ctx.settings.jdkFormula)).bind fun _ =>
          Context.brewInstall ctx.settings.jdkFormula

/-- The JDK on macOS, if it is needed. -/
theorem installJdkFormula_eq (ctx : Context) :
    installJdkFormula ctx = ctx.whenNeeded .javaCompiler (brewJdk ctx) := rfl

end Prerequisites

/-! ## §3. Packages. -/

namespace PythonPackages

/-- Where there is conda, its build tool. -/
def condaBuild : Procedure Unit :=
  (locate "conda").bind fun found =>
    when found.isSome ((step "Installing conda-build").bind fun _ =>
      Procedure.run ⟨"conda", ["install", "-y", "conda-build"], none⟩)

/-- Torch itself. -/
def torch (ctx : Context) (os : Os) (a : Option Accelerator) : Procedure Unit :=
  (step ("Installing torch (" ++ buildTag a ++ ")")).bind fun _ =>
    Procedure.run (torchCommand ctx os a)

/-- A pip that is up to date. -/
def upgrade (ctx : Context) : Procedure Unit :=
  when ctx.settings.upgradePip (Procedure.run (pip ctx ["-U", "pip", "setuptools"]))

/-- The requirements of the environment. -/
def requirementsOf (ctx : Context) (requirements : Path) : Procedure Unit :=
  (step ("Installing Python requirements from " ++ requirements.text)).bind fun _ =>
    Procedure.run (pip ctx ["-U", "-r", requirements.text])

/-- The nightly build on top. -/
def nightlyTorch (ctx : Context) (a : Option Accelerator) (nightly : Bool) : Procedure Unit :=
  when nightly ((step "Installing nightly torch packages").bind fun _ =>
    Procedure.run (nightlyCommand ctx a))

/-- **The parts of the package step**, for a supported accelerator. -/
theorem installFor_eq {os : Os} {a : Option Accelerator} (h : unsupported? os a = none)
    (ctx : Context) (requirements : Path) (nightly : Bool) :
    installFor ctx os a requirements nightly
      = condaBuild.bind fun _ => (torch ctx os a).bind fun _ =>
          (upgrade ctx).bind fun _ => (requirementsOf ctx requirements).bind fun _ =>
            nightlyTorch ctx a nightly := by
  simp only [installFor, h, condaBuild, torch, upgrade, requirementsOf, nightlyTorch,
    bind_assoc, when_bind]
  rfl

/-- The steps of the interpreter's pip. -/
def pipSteps (ctx : Context) (os : Os) (a : Option Accelerator) (requirements : Path)
    (nightly : Bool) : Procedure Unit :=
  (torch ctx os a).bind fun _ => (upgrade ctx).bind fun _ =>
    (requirementsOf ctx requirements).bind fun _ => nightlyTorch ctx a nightly

/-- All that looks at the search path is the step before those of pip. -/
theorem installFor_pipSteps {os : Os} {a : Option Accelerator} (h : unsupported? os a = none)
    (ctx : Context) (requirements : Path) (nightly : Bool) :
    installFor ctx os a requirements nightly
      = condaBuild.bind fun _ => pipSteps ctx os a requirements nightly := installFor_eq h ..

/-- **Nothing is installed for an unsupported accelerator.** -/
theorem installFor_unsupported {os : Os} {a : Option Accelerator} {e : Failure}
    (h : unsupported? os a = some e) (ctx : Context) (requirements : Path) (nightly : Bool) :
    installFor ctx os a requirements nightly = .fail e := by
  simp only [installFor, h]

end PythonPackages

/-! ## §4. The sequence. -/

namespace Sequence

/-- What a run does about the interpreter: a dry run leaves it alone. -/
def interpreter (ctx : Context) : Procedure Unit :=
  if ctx.config.dryRun then
    Procedure.log .debug .sequence "Skipping Python version check in dry-run mode"
  else checkPython ctx

/-- The steps after the check of the interpreter. -/
def steps (ctx : Context) : Procedure Unit :=
  (prepare ctx).bind fun _ =>
    (when ctx.config.isDev (developerTools ctx)).bind fun _ =>
      (Prerequisites.ensure ctx .javaCompiler).bind fun _ =>
        PythonPackages.install ctx ctx.config.accelerator ctx.config.requirementsPath
          ctx.config.nightly

/-- The line that an installation begins its log with. -/
def opening (ctx : Context) : Procedure Unit :=
  Procedure.log .info .sequence
    ("Installing " ++ ctx.config.environment.display ++ " dependencies for "
      ++ ctx.target.os.display)

/-- **The interpreter's check, then the steps.** -/
theorem install_eq (ctx : Context) :
    install ctx = (opening ctx).bind fun _ => (interpreter ctx).bind fun _ => steps ctx := by
  unfold install interpreter steps
  simp only [when_bind]
  cases ctx.config.dryRun <;> rfl

/-- The package index is refreshed on one condition only. -/
theorem prepare_eq (ctx : Context) :
    prepare ctx = when (ctx.target.os == .linux && ctx.config.force)
      ((step "Refreshing apt package index").bind fun _ =>
        Procedure.run (ctx.elevated "apt-get" ["update"])) := by
  unfold prepare
  cases ctx.target.os <;> cases ctx.config.force <;> rfl

/-- The four steps for a developer's host, the last of them on Linux alone. -/
theorem developerTools_eq (ctx : Context) :
    developerTools ctx
      = (Prerequisites.ensure ctx .downloadUtility).bind fun _ =>
          (NodeJs.install ctx).bind fun _ =>
            (NodeJs.installTooling ctx).bind fun _ =>
              when (ctx.target.os == .linux)
                (NativeBuild.install ctx ctx.settings.nativeLibrary) := rfl

end Sequence

end Provision
