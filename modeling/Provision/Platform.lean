/-
  Provision.Platform
  ──────────────────
  **WHAT IS INSTALLED FOR: SYSTEM, ACCELERATOR, ENVIRONMENT.**

  Three closed choices describe the target of a run: the operating system,
  the accelerator that torch is built for, and the environment (production or
  developer).  Each choice has names by which it is given on the command line
  and texts by which it is shown.

  Main results:

    `ofName?_name`      every choice is read back from its own name
-/
import Provision.Path

namespace Provision

/-! ## §1. Choices that are given by name. -/

/-- A closed choice: its values, each with the name that is shown and the
other names it can be given by. -/
class Choice (α : Type) where
  /-- The values in the order in which they are listed. -/
  values : List α
  /-- The name of a value. -/
  name : α → String
  /-- The other names of a value. -/
  aliases : α → List String := fun _ => []
  /-- One sentence about a value, where it has one. -/
  summary : α → Option String := fun _ => none

namespace Choice

variable {α : Type} [Choice α]

/-- The text in lower case, as far as its letters are A to Z. -/
def lower (s : String) : String := String.ofList (s.toList.map Char.toLower)

/-- Are the two names the same, the case of A to Z aside if `ignoreCase`? -/
def sameName (ignoreCase : Bool) (s t : String) : Bool :=
  if ignoreCase then lower s == lower t else s == t

/-- The first value that can be given by the name. -/
def ofName? (ignoreCase : Bool) (text : String) : Option α :=
  (Choice.values : List α).find? fun a =>
    (Choice.name a :: Choice.aliases a).any (sameName ignoreCase text)

/-- The names that are listed for a choice. -/
def names (α : Type) [Choice α] : List String := (Choice.values : List α).map Choice.name

end Choice

/-! ## §2. The operating system. -/

/-- The operating systems that can be installed for. -/
inductive Os where
  | linux
  | windows
  | macOS
  deriving DecidableEq, Repr, Inhabited

namespace Os

/-- The lower-case name in the names of requirements files. -/
def systemName : Os → String
  | .linux => "linux"
  | .windows => "windows"
  | .macOS => "darwin"

/-- The name that is shown. -/
def display : Os → String
  | .linux => "Linux"
  | .windows => "Windows"
  | .macOS => "macOS"

instance : Choice Os where
  values := [.linux, .windows, .macOS]
  name
    | .linux => "linux"
    | .windows => "windows"
    | .macOS => "macos"
  aliases
    | .macOS => ["darwin"]
    | _ => []

end Os

/-! ## §3. The accelerator. -/

/-- The accelerator releases that torch is built for. -/
inductive Accelerator where
  | cu92
  | cu101
  | cu102
  | cu111
  | cu113
  | cu116
  | cu117
  | cu118
  deriving DecidableEq, Repr, Inhabited

namespace Accelerator

/-- The tag of a release in file names and index addresses. -/
def tag : Accelerator → String
  | .cu92 => "cu92"
  | .cu101 => "cu101"
  | .cu102 => "cu102"
  | .cu111 => "cu111"
  | .cu113 => "cu113"
  | .cu116 => "cu116"
  | .cu117 => "cu117"
  | .cu118 => "cu118"

instance : Choice Accelerator where
  values := [.cu92, .cu101, .cu102, .cu111, .cu113, .cu116, .cu117, .cu118]
  name := tag

end Accelerator

/-- The tag of the torch build: the accelerator's, or `cpu` without one. -/
def buildTag : Option Accelerator → String
  | none => "cpu"
  | some a => a.tag

/-! ## §4. The environment. -/

/-- What the host is provisioned for. -/
inductive Environment where
  /-- Runtime dependencies only. -/
  | production
  /-- Build and test tooling as well. -/
  | developer
  deriving DecidableEq, Repr, Inhabited

namespace Environment

/-- The name that is given and shown. -/
def display : Environment → String
  | .production => "prod"
  | .developer => "dev"

/-- The requirements file of the environment, below the project root. -/
def requirementsFile : Environment → String
  | .production => "requirements/production.txt"
  | .developer => "requirements/developer.txt"

instance : Choice Environment where
  values := [.production, .developer]
  name := display
  summary
    | .production => some "Runtime dependencies only"
    | .developer => some "Build and test tooling on top of the runtime dependencies"

end Environment

/-! ## §5. Names are read back. -/

/-- A system is read from its own name. -/
theorem Os.ofName?_name (os : Os) : Choice.ofName? false (Choice.name os) = some os := by
  cases os <;> decide

/-- An accelerator is read from its own name. -/
theorem Accelerator.ofName?_name (a : Accelerator) :
    Choice.ofName? false (Choice.name a) = some a := by
  cases a <;> decide

/-- An environment is read from its own name. -/
theorem Environment.ofName?_name (e : Environment) :
    Choice.ofName? false (Choice.name e) = some e := by
  cases e <;> decide

/-! ## §6. The options of one run. -/

/-- The options of one run. -/
structure InstallConfig where
  environment : Environment := .production
  accelerator : Option Accelerator := none
  /-- Install again what is already there. -/
  force : Bool := false
  /-- Put the nightly build of torch on top. -/
  nightly : Bool := false
  projectRoot : Path
  /-- Show the commands instead of running them. -/
  dryRun : Bool := false
  deriving DecidableEq, Repr, Inhabited

namespace InstallConfig

/-- Is the run for developers? -/
def isDev (c : InstallConfig) : Bool := c.environment == .developer

/-- The environment alone decides that. -/
theorem isDev_eq {c : InstallConfig} {e : Environment} (h : c.environment = e) :
    c.isDev = (e == .developer) := by
  unfold isDev
  rw [h]

/-- The requirements file of the run's environment. -/
def requirementsPath (c : InstallConfig) : Path :=
  c.projectRoot.join ⟨c.environment.requirementsFile⟩

end InstallConfig

end Provision
