/-
  Provision.CommandLine.Refusal
  ─────────────────────────────
  **COMMAND LINES THAT START NO RUN.**

  A command line that asks for help or for the version is answered with a
  text.  One that breaks the rules is answered with the first breach: an
  option that is not known, given twice, given with too many values or none,
  or given together with one that excludes it.
-/
import Provision.CommandLine.Option

namespace Provision.CommandLine

/-! ## §1. Breaches. -/

/-- The breaches of the rules of the command line. -/
inductive UsageFault where
  /-- A parameter without a value. -/
  | valueRequired (p : Parameter)
  /-- A parameter with a value that it does not accept. -/
  | invalidValue (p : Parameter) (text : String)
  /-- An option that was given before. -/
  | repeated (o : Opt)
  /-- Two flags that exclude each other. -/
  | excluded (f g : Flag)
  /-- A value for an option that takes none. -/
  | tooManyValues (o : Opt) (text : String)
  /-- A word that is no option and no value. -/
  | unexpected (word : String)
  deriving DecidableEq, Repr, Inhabited

/-- The line that lists the values of a parameter, where they are a closed
choice. -/
def choicesLine (p : Parameter) : String :=
  match p.choices.map (·.1) with
  | [] => ""
  | names => "\n  [possible values: " ++ String.intercalate ", " names ++ "]"

namespace UsageFault

/-- What is wrong. -/
def text : UsageFault → String
  | .valueRequired p =>
      "a value is required for '" ++ (Opt.parameter p).shown ++ "' but none was supplied"
        ++ choicesLine p
  | .invalidValue p value =>
      "invalid value '" ++ value ++ "' for '" ++ (Opt.parameter p).shown ++ "'" ++ choicesLine p
  | .repeated o => "the argument '" ++ o.shown ++ "' cannot be used multiple times"
  | .excluded f g =>
      "the argument '" ++ (Opt.flag f).shown ++ "' cannot be used with '"
        ++ (Opt.flag g).shown ++ "'"
  | .tooManyValues o value =>
      "unexpected value '" ++ value ++ "' for '" ++ o.shown ++ "' found; no more were expected"
  | .unexpected word => "unexpected argument '" ++ word ++ "' found"

/-- The message of a breach. -/
def message (f : UsageFault) : String := "error: " ++ f.text

/-- The exit code of a command line that breaks the rules. -/
def exitCode : Nat := 2

end UsageFault

/-! ## §2. Refusals. -/

/-- Why a command line starts no run. -/
inductive Refusal where
  /-- It asks for help, in full or in short. -/
  | help (full : Bool)
  /-- It asks for the version. -/
  | version
  | fault (f : UsageFault)
  deriving DecidableEq, Repr, Inhabited

end Provision.CommandLine
