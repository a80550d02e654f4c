/-
  Provision.CommandLine.Help
  ──────────────────────────
  **THE HELP TEXTS.**

  The short help is a table with one line for every option; the full help
  gives every option a block of its own.  Both show where a parameter comes
  from if it is not given: the variable with its value now, and the default.
-/
import Provision.CommandLine.Refusal

namespace Provision.CommandLine

/-! ## §1. What is said about an option. -/

/-- What an option is for. -/
def Opt.summary : Opt → String
  | .parameter .cuda => "CUDA version for torch"
  | .parameter .environment =>
      "Environment (production or developer) on which dependencies will be installed"
  | .parameter .project => "Path to project root (overrides current directory)"
  | .parameter .config => "Path to settings file (overrides default .servedeps/config.yml)"
  | .parameter .python => "Python interpreter to install packages into"
  | .parameter .platform => "Install for another platform (dry-run previews)"
  | .flag .nightly => "Install nightly version of torch package"
  | .flag .force => "Force reinstall dependencies wget, node, java and apt-update"
  | .flag .dryRun => "Print commands without executing them"
  | .flag .verbose => "Show every command before it runs"
  | .flag .quiet => "Minimal output"
  | .flag .noColor => "Disable colored output"
  | .flag .debug => "Enable debug logging"
  | .help => "Print help"
  | .version => "Print version"

/-- The default that is shown for a parameter. -/
def Parameter.default? : Parameter → Option String
  | .environment => some (Choice.name Environment.production)
  | _ => none

/-- The summary of an option, with a hint at the other help. -/
def Opt.summaryIn (full : Bool) (o : Opt) : String :=
  if o != .help then o.summary
  else if full then o.summary ++ " (see a summary with '-h')"
  else o.summary ++ " (see more with '--help')"

/-- Are the values of a parameter explained one by one? -/
def Parameter.explained (p : Parameter) : Bool := p.choices.any (·.2.isSome)

/-- The notes in brackets: the variable, the default and the values, these
unless they are explained elsewhere. -/
def Parameter.notes (valueOf : String → Option String) (full : Bool) (p : Parameter) :
    List String :=
  (p.fallback?.toList.map fun v => "[env: " ++ v ++ "=" ++ (valueOf v).getD "" ++ "]")
    ++ (p.default?.toList.map fun d => "[default: " ++ d ++ "]")
    ++ (if p.choices.isEmpty || (full && p.explained) then []
      else ["[possible values: " ++ String.intercalate ", " (p.choices.map (·.1)) ++ "]"])

/-- The notes of an option. -/
def Opt.notes (valueOf : String → Option String) (full : Bool) : Opt → List String
  | .parameter p => p.notes valueOf full
  | _ => []

/-! ## §2. Layout. -/

/-- The letter and the long name of an option, in two columns. -/
def Opt.heading (o : Opt) : String :=
  (match o.letter? with
    | some c => "  -" ++ String.ofList [c] ++ ", "
    | none => "      ") ++ o.shown

/-- A text with blanks up to a width. -/
def padded (width : Nat) (text : String) : String :=
  text ++ String.ofList (List.replicate (width - text.length) ' ')

/-- The options that the help lists. -/
def listed : List Opt := Opt.all.filter fun o => !o.isHidden

/-- The longest of some lengths. -/
def longest (texts : List String) : Nat := texts.foldl (fun n t => max n t.length) 0

/-- The line of an option in the short help. -/
def shortLine (valueOf : String → Option String) (width : Nat) (o : Opt) : String :=
  padded width o.heading
    ++ String.intercalate " " (o.summaryIn false :: o.notes valueOf false)

/-- The margin of the blocks. -/
def margin : String := "          "

/-- The lines that explain the values of an option. -/
def explanation : Opt → List String
  | .parameter p =>
      if p.explained then
        let width := longest (p.choices.map (·.1)) + 1
        "" :: (margin ++ "Possible values:") :: p.choices.map fun (name, summary) =>
          margin ++ "- " ++ padded (width + 1) (name ++ ":") ++ summary.getD ""
      else []
  | _ => []

/-- The block of an option in the full help. -/
def block (valueOf : String → Option String) (o : Opt) : List String :=
  let notes := (o.notes valueOf true).map (margin ++ ·)
  [o.heading, margin ++ o.summaryIn true] ++ explanation o
    ++ (if notes.isEmpty then [] else margin :: notes)

/-! ## §3. The texts. -/

/-- The name of the program with its version. -/
def versionText : String := "servedeps 0.4.0"

/-- The lines above the options. -/
def preamble : List String :=
  ["Cross-platform build and test dependency installer for the model server", "",
    "Usage: servedeps [OPTIONS]", "", "Options:"]

/-- The short help. -/
def shortHelp (valueOf : String → Option String) : String :=
  let width := longest (listed.map Opt.heading) + 2
  String.intercalate "\n" (preamble ++ listed.map (shortLine valueOf width))

/-- The full help. -/
def fullHelp (valueOf : String → Option String) : String :=
  String.intercalate "\n" preamble ++ "\n" ++ String.intercalate "\n\n"
    (listed.map fun o => String.intercalate "\n" (block valueOf o))

/-- The text that answers a refusal. -/
def Refusal.text (valueOf : String → Option String) : Refusal → String
  | .help true => fullHelp valueOf
  | .help false => shortHelp valueOf
  | .version => versionText
  | .fault f => f.message

/-- The exit code of a refusal. -/
def Refusal.exitCode : Refusal → Nat
  | .fault _ => UsageFault.exitCode
  | _ => 0

end Provision.CommandLine
