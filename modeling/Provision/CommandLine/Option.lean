/-
  Provision.CommandLine.Option
  ────────────────────────────
  **THE OPTIONS OF THE PROGRAM.**

  An option is a flag, which is given or not, or a parameter, which takes one
  value; two more ask for help and for the version.  Every option has a long
  name, some have a letter, and some parameters fall back on a variable of the
  environment.

  Main results:

    `ofName?_name`      every option is found under its long name
-/
import Provision.Platform

namespace Provision.CommandLine

/-! ## §1. Flags and parameters. -/

/-- The options that are given or not. -/
inductive Flag where
  /-- Put the nightly build of torch on top. -/
  | nightly
  /-- Install again what is already there. -/
  | force
  /-- Show the commands instead of running them. -/
  | dryRun
  | verbose
  | quiet
  | noColor
  | debug
  deriving DecidableEq, Repr, Inhabited

/-- The options that take a value. -/
inductive Parameter where
  | cuda
  | environment
  | project
  | config
  | python
  | platform
  deriving DecidableEq, Repr, Inhabited

/-- The options of the program. -/
inductive Opt where
  | flag (f : Flag)
  | parameter (p : Parameter)
  | help
  | version
  deriving DecidableEq, Repr, Inhabited

/-! ## §2. Names. -/

/-- The name of a flag, after two hyphens. -/
def Flag.name : Flag → String
  | .nightly => "nightly_torch"
  | .force => "force"
  | .dryRun => "dry-run"
  | .verbose => "verbose"
  | .quiet => "quiet"
  | .noColor => "no-color"
  | .debug => "debug"

/-- The name of a parameter, after two hyphens. -/
def Parameter.name : Parameter → String
  | .cuda => "cuda"
  | .environment => "environment"
  | .project => "project"
  | .config => "config"
  | .python => "python"
  | .platform => "platform"

/-- The word that stands for the value of a parameter. -/
def Parameter.placeholder : Parameter → String
  | .cuda => "CUDA"
  | .environment => "ENVIRONMENT"
  | .project => "PROJECT"
  | .config => "CONFIG"
  | .python => "PYTHON"
  | .platform => "PLATFORM"

namespace Opt

/-- The options in the order in which they are listed. -/
def all : List Opt :=
  [.parameter .cuda, .parameter .environment, .flag .nightly, .flag .force,
    .parameter .project, .parameter .config, .parameter .python, .flag .dryRun,
    .flag .verbose, .flag .quiet, .flag .noColor, .flag .debug, .parameter .platform,
    .help, .version]

/-- The long name of an option. -/
def name : Opt → String
  | .flag f => f.name
  | .parameter p => p.name
  | .help => "help"
  | .version => "version"

/-- The other long names of an option. -/
def aliases : Opt → List String
  | .flag .nightly => ["nightly-torch"]
  | _ => []

/-- The letter of an option. -/
def letter? : Opt → Option Char
  | .parameter .project => some 'p'
  | .parameter .config => some 'c'
  | .flag .verbose => some 'v'
  | .flag .quiet => some 'q'
  | .help => some 'h'
  | .version => some 'V'
  | _ => none

/-- The option with a long name. -/
def ofName? (text : String) : Option Opt :=
  all.find? fun o => (o.name :: o.aliases).contains text

/-- The option with a letter. -/
def ofLetter? (c : Char) : Option Opt := all.find? fun o => o.letter? == some c

/-- An option as messages show it: its long name and the word for its value. -/
def shown : Opt → String
  | .parameter p => "--" ++ p.name ++ " <" ++ p.placeholder ++ ">"
  | o => "--" ++ o.name

/-- Is the option left out of the help? -/
def isHidden (o : Opt) : Bool := o == .parameter .platform

/-- Every option is found by its own name. -/
theorem ofName?_name (o : Opt) : ofName? o.name = some o := by
  rcases o with f | p | _ | _
  · cases f <;> decide
  · cases p <;> decide
  · decide
  · decide

end Opt

/-! ## §3. Variables of the environment. -/

/-- The variable that is asked where the parameter is not given. -/
def Parameter.fallback? : Parameter → Option String
  | .cuda => some "SERVEDEPS_CUDA"
  | .environment => some "SERVEDEPS_ENVIRONMENT"
  | .config => some "SERVEDEPS_CONFIG"
  | .python => some "SERVEDEPS_PYTHON"
  | .project => none
  | .platform => none

/-- The parameters that fall back on a variable, in the order in which the
variables are asked. -/
def Parameter.withVariable : List Parameter := [.cuda, .environment, .config, .python]

/-! ## §4. Listed values. -/

/-- The values of a parameter that takes a closed choice: the name of each,
and a sentence about it where it has one. -/
def Parameter.choices : Parameter → List (String × Option String)
  | .cuda => (Choice.values : List Accelerator).map fun a => (Choice.name a, Choice.summary a)
  | .environment =>
      (Choice.values : List Environment).map fun e => (Choice.name e, Choice.summary e)
  | .platform => (Choice.values : List Os).map fun o => (Choice.name o, Choice.summary o)
  | _ => []

end Provision.CommandLine
