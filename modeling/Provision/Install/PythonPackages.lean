/-
  Provision.Install.PythonPackages
  ────────────────────────────────
  **TORCH AND THE PYTHON PACKAGES.**

  Torch is installed from the requirements file of the platform and the
  accelerator, then the requirements of the environment, and last, where it
  is asked for, the nightly build on top.  Accelerators without a build are
  refused before anything is run.

  Main results:

    `unsupported?_eq_none`    every pair but the known gaps is supported
-/
import Provision.Install.Context

namespace Provision

namespace PythonPackages

/-! ## §1. Which builds there are. -/

/-- Where to go for a build that there is not. -/
def referral : String := " Refer https://pytorch.org/ for installing from source."

/-- The failure for an accelerator that has no build on the system. -/
def unsupported? : Os → Option Accelerator → Option Failure
  | .macOS, some _ =>
      some (.unsupportedCombination ("CUDA not supported on MacOS." ++ referral))
  | .windows, some .cu92 =>
      some (.unsupportedCombination ("CUDA 9.2 not supported on Windows." ++ referral))
  | _, _ => none

/-- **An accelerator is supported but on macOS**, and CUDA 9.2 not on Windows
either. -/
theorem unsupported?_eq_none (os : Os) (a : Option Accelerator) :
    unsupported? os a = none ↔
      ¬ (os = .macOS ∧ a.isSome) ∧ ¬ (os = .windows ∧ a = some .cu92) := by
  cases os <;> rcases a with _ | a
  · simp [unsupported?]
  · simp [unsupported?]
  · simp [unsupported?]
  · cases a <;> simp [unsupported?]
  · simp [unsupported?]
  · simp [unsupported?]

/-- The requirements file of torch, below the project root. -/
def torchRequirementsFile (os : Os) : Option Accelerator → String
  | some a => "requirements/torch_" ++ a.tag ++ "_" ++ os.systemName ++ ".txt"
  | none => "requirements/torch_" ++ os.systemName ++ ".txt"

/-! ## §2. The commands. -/

/-- A command of the interpreter's pip. -/
def pip (ctx : Context) (arguments : List String) : Command :=
  ⟨ctx.settings.python, ["-m", "pip", "install"] ++ arguments, none⟩

/-- The command that installs torch. -/
def torchCommand (ctx : Context) (os : Os) (a : Option Accelerator) : Command :=
  pip ctx ["-U", "-r", (ctx.config.projectRoot.join ⟨torchRequirementsFile os a⟩).text]

/-- The command that installs the nightly build. -/
def nightlyCommand (ctx : Context) (a : Option Accelerator) : Command :=
  pip ctx ["numpy", "--pre", "torch[dynamo]", "torchvision", "torchtext", "torchaudio",
    "--force-reinstall", "--extra-index-url", ctx.settings.nightlyIndexFor (buildTag a)]

/-! ## §3. The installation. -/

/-- Install torch for a system, then the requirements, then the nightly build
if it is asked for.  Where there is conda, its build tool goes first, because
it may replace packages otherwise. -/
def installFor (ctx : Context) (os : Os) (a : Option Accelerator) (requirements : Path)
    (nightly : Bool) : Procedure Unit :=
  match unsupported? os a with
  | some e => .fail e
  | none => do
      if (← Procedure.locate "conda").isSome then
        Procedure.step "Installing conda-build"
        Procedure.run ⟨"conda", ["install", "-y", "conda-build"], none⟩
      Procedure.step ("Installing torch (" ++ buildTag a ++ ")")
      Procedure.run (torchCommand ctx os a)
      if ctx.settings.upgradePip then
        Procedure.run (pip ctx ["-U", "pip", "setuptools"])
      Procedure.step ("Installing Python requirements from " ++ requirements.text)
      Procedure.run (pip ctx ["-U", "-r", requirements.text])
      if nightly then
        Procedure.step "Installing nightly torch packages"
        Procedure.run (nightlyCommand ctx a)

/-- Install for the platform of the run. -/
def install (ctx : Context) (a : Option Accelerator) (requirements : Path)
    (nightly : Bool) : Procedure Unit :=
  installFor ctx ctx.target.os a requirements nightly

end PythonPackages

end Provision
