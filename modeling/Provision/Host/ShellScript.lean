/-
  Provision.Host.ShellScript
  ──────────────────────────
  **PLAIN SHELL SCRIPTS.**

  A script that a project brings along is a text of lines.  A line is a
  comment, prints words, or ends the script with an exit code; in a word the
  name of the working directory stands for that directory.  A line of any
  other kind is a command that the shell does not find.

  Main results:

    `runLines_nil`      a script without lines exits with the code so far
    `runLines_exit`     nothing is done after the line that ends the script
-/
import Provision.Text.Blank
import Provision.Text.Decimal
import Provision.Text.Search

namespace Provision

open Provision.Text

namespace ShellScript

/-! ## §1. Lines. -/

/-- The words of a line. -/
def words (line : String) : List String :=
  (pieces ' ' line).filter (· != "")

/-- A word with the working directory in the place of its name. -/
def expand (directory word : String) : String := replaceAll word "$PWD" directory

/-- The exit code of a command that is not found. -/
def notFound : Nat := 127

/-- The exit code that the words after `exit` give. -/
def exitCode (last : Nat) : List String → Nat
  | [] => last
  | word :: _ => (readNat? word.toList).getD 2 % 256

/-! ## §2. Running. -/

/-- The text that the lines print and the exit code, after a last command
with the code `last`. -/
def runLines (directory : String) (last : Nat) : List String → String × Nat
  | [] => ("", last)
  | line :: rest =>
      match words line with
      | [] => runLines directory last rest
      | "echo" :: ws =>
          let text := String.intercalate " " (ws.map (expand directory)) ++ "\n"
          let (more, code) := runLines directory 0 rest
          (text ++ more, code)
      | "exit" :: ws => ("", exitCode last ws)
      | word :: _ =>
          if word.toList.head? == some '#' then runLines directory last rest
          else runLines directory notFound rest

/-- The text that a script prints in a directory, and its exit code. -/
def run (directory : String) (script : String) : String × Nat :=
  runLines directory 0 (pieces '\n' script)

/-- Does a file begin as a script does? -/
def isScript (text : String) : Bool := "#!".toList.isPrefixOf text.toList

/-- An empty script ends with the last status. -/
theorem runLines_nil (directory : String) (last : Nat) :
    runLines directory last [] = ("", last) := rfl

/-- Behind an `exit` no line is run. -/
theorem runLines_exit {directory line : String} {last : Nat} {ws : List String}
    (h : words line = "exit" :: ws) (rest : List String) :
    runLines directory last (line :: rest) = ("", exitCode last ws) := by
  simp [runLines, h]

end ShellScript

end Provision
