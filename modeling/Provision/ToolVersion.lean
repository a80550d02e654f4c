/-
  Provision.ToolVersion
  ─────────────────────
  **ASKING TOOLS FOR THEIR VERSION.**

  A tool is run with `--version` and its output is searched for a pattern:
  first what it wrote to standard output and, if the pattern occurs nowhere
  there, what it wrote to standard error.  The version is the first group of
  the match without blanks at its ends.  A tool that cannot be started, fails
  or writes nothing that matches has no version.

  Main results:

    `firstGroup?_stdout`   a match on standard output hides standard error
-/
import Provision.Procedure
import Provision.Pattern.Reader
import Provision.Text.Decimal

namespace Provision

open Provision.Text

/-! ## §1. Searching the output. -/

/-- The match of the output: standard output comes first. -/
def Captured.firstMatch? (r : Captured) (p : Pattern) : Option Pattern.Place :=
  (p.firstMatch? r.stdout).or (p.firstMatch? r.stderr)

/-- The first group of the match without blanks at its ends. -/
def Captured.firstGroup? (r : Captured) (p : Pattern) : Option String :=
  ((r.firstMatch? p).bind (·.group? 1)).map trimmed

/-- A match on standard output decides, whatever stands on standard error. -/
theorem Captured.firstGroup?_stdout {r : Captured} {p : Pattern} {t : Pattern.Place}
    (h : p.firstMatch? r.stdout = some t) :
    r.firstGroup? p = (t.group? 1).map trimmed := by
  simp [Captured.firstGroup?, Captured.firstMatch?, h]

namespace ToolVersion

/-- Run a command and find a pattern in what it writes. -/
def ask (c : Command) (p : Pattern) : Procedure (Option String) := do
  match ← Procedure.capture c with
  | .error _ => return none
  | .ok r =>
      if r.succeeded then return r.firstGroup? p
      else
        Procedure.log .debug .version (c.line ++ " exited with " ++ shownCode r.code)
        return none

/-- Run a command and find a pattern that is given by its text; a text that is
no pattern finds nothing, and the command is not run. -/
def askFor (c : Command) (pattern : String) : Procedure (Option String) :=
  match Pattern.ofText? pattern with
  | some p => ask c p
  | none => return none

/-- The command that asks a program for its version. -/
def question (program : String) : Command := ⟨program, ["--version"], none⟩

/-! ## §2. Homebrew. -/

/-- The name, a blank, and the rest of the line. -/
def homebrewPattern : Pattern :=
  .seq (.literal "Homebrew ".toList) (.group 1 (.star true (.one .notNewline)))

/-- What is reported where no version is known. -/
def notAvailable : String := "N/A"

/-- The version of Homebrew. -/
def homebrew : Procedure String := do
  return (← ask (question "brew") homebrewPattern).getD notAvailable

/-! ## §3. Python. -/

/-- The name, a blank, digits, a dot and digits. -/
def pythonPattern : Pattern :=
  .seq (.literal "Python ".toList)
    (.group 1 (.seq (.plus true (.one .digit))
      (.seq (.one (.single '.')) (.plus true (.one .digit)))))

/-- The first two numbers of a version. -/
structure Release where
  major : Nat
  minor : Nat
  deriving DecidableEq, Repr, Inhabited

namespace Release

/-- The two numbers around the first dot, each of them below 2^32. -/
def ofText? (text : String) : Option Release := do
  let major := text.toList.takeWhile (· != '.')
  let minor ← (text.toList.drop major.length).tail?
  return ⟨← readWord? major, ← readWord? minor⟩

/-- The text of a release. -/
def text (r : Release) : String := toString r.major ++ "." ++ toString r.minor

/-- Is `r` the release `s` or a later one? -/
def atLeast (r s : Release) : Bool :=
  s.major < r.major || (s.major == r.major && s.minor ≤ r.minor)

end Release

/-- The release of a Python interpreter. -/
def python (interpreter : String) : Procedure (Option Release) := do
  return (← ask (question interpreter) pythonPattern).bind Release.ofText?

end ToolVersion

end Provision
