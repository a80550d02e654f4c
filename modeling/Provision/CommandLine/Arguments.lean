/-
  Provision.CommandLine.Arguments
  ───────────────────────────────
  **WHAT A COMMAND LINE ASKS FOR.**

  The arguments of a run hold one field for every option; a parameter that
  was not given has its default or nothing.

  Main results:

    `outputMode_of_quiet`   a quiet run is quiet whatever else is asked for
-/
import Provision.CommandLine.Option
import Provision.Failure
import Provision.Output.Notice

namespace Provision.CommandLine

open Provision.Text

/-- The arguments of a run. -/
structure Arguments where
  accelerator : Option Accelerator := none
  environment : Environment := .production
  nightly : Bool := false
  force : Bool := false
  project : Option Path := none
  config : Option Path := none
  python : Option String := none
  dryRun : Bool := false
  verbose : Bool := false
  quiet : Bool := false
  noColor : Bool := false
  debug : Bool := false
  platform : Option Os := none
  deriving DecidableEq, Repr, Inhabited

namespace Arguments

/-! ## §1. Setting one field. -/

/-- The arguments with a flag. -/
def withFlag (a : Arguments) : Flag → Arguments
  | .nightly => { a with nightly := true }
  | .force => { a with force := true }
  | .dryRun => { a with dryRun := true }
  | .verbose => { a with verbose := true }
  | .quiet => { a with quiet := true }
  | .noColor => { a with noColor := true }
  | .debug => { a with debug := true }

/-- A path that is not empty. -/
def path? (text : String) : Option Path := if text == "" then none else some ⟨text⟩

/-- The arguments with a parameter, if it accepts the value. -/
def withValue? (a : Arguments) (text : String) : Parameter → Option Arguments
  | .cuda => (Choice.ofName? false text).map fun x => { a with accelerator := some x }
  | .environment => (Choice.ofName? false text).map fun x => { a with environment := x }
  | .project => (path? text).map fun p => { a with project := some p }
  | .config => (path? text).map fun p => { a with config := some p }
  | .python => some { a with python := some text }
  | .platform => (Choice.ofName? false text).map fun x => { a with platform := some x }

/-! ## §2. What the arguments mean. -/

/-- How much is printed. -/
def outputMode (a : Arguments) : OutputMode :=
  if a.quiet then .quiet else if a.verbose then .verbose else .normal

/-- The options of the installation. -/
def installConfig (a : Arguments) (projectRoot : Path) : InstallConfig where
  environment := a.environment
  accelerator := a.accelerator
  force := a.force
  nightly := a.nightly
  projectRoot := projectRoot
  dryRun := a.dryRun

/-- The system to install for: the one that is named, or the host's own. -/
def targetOs (a : Arguments) (host : Os) : Os := a.platform.getD host

/-- Quiet takes precedence over verbose. -/
theorem outputMode_of_quiet {a : Arguments} (h : a.quiet = true) : a.outputMode = .quiet := by
  simp [outputMode, h]

/-! ## §3. The developer's text. -/

/-- A value that may be missing. -/
def shownOption {α : Type} (show_ : α → String) : Option α → String
  | none => "None"
  | some x => "Some(" ++ show_ x ++ ")"

/-- A truth value. -/
def shownBool (b : Bool) : String := if b then "true" else "false"

/-- An accelerator, by its constructor. -/
def shownAccelerator : Accelerator → String
  | .cu92 => "Cu92"
  | .cu101 => "Cu101"
  | .cu102 => "Cu102"
  | .cu111 => "Cu111"
  | .cu113 => "Cu113"
  | .cu116 => "Cu116"
  | .cu117 => "Cu117"
  | .cu118 => "Cu118"

/-- An environment, by its constructor. -/
def shownEnvironment : Environment → String
  | .production => "Prod"
  | .developer => "Dev"

/-- An operating system, by its constructor. -/
def shownOs : Os → String
  | .linux => "Linux"
  | .windows => "Windows"
  | .macOS => "MacOs"

/-- The developer's text of the arguments. -/
def debugText (a : Arguments) : String :=
  let shownPath (p : Path) : String := Quoted.encodePath p.text
  shownRecord "Cli" [
    shownField "cuda" (shownOption shownAccelerator a.accelerator),
    shownField "environment" (shownEnvironment a.environment),
    shownField "nightly_torch" (shownBool a.nightly),
    shownField "force" (shownBool a.force),
    shownField "project" (shownOption shownPath a.project),
    shownField "config" (shownOption shownPath a.config),
    shownField "python" (shownOption Quoted.encode a.python),
    shownField "dry_run" (shownBool a.dryRun),
    shownField "verbose" (shownBool a.verbose),
    shownField "quiet" (shownBool a.quiet),
    shownField "no_color" (shownBool a.noColor),
    shownField "debug" (shownBool a.debug),
    shownField "platform" (shownOption shownOs a.platform)]

end Arguments

end Provision.CommandLine
