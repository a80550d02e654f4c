/-
  Provision.Command
  ─────────────────
  **INVOCATIONS OF EXTERNAL TOOLS.**

  A command is a program with its arguments and, perhaps, a working
  directory.  Nothing here starts a process: a command is data, so that the
  same steps can be carried out, shown or recorded.

  Main results:

    `elevated_none`     without a privilege prefix a command is itself
    `elevated_some`     with one, the prefix runs the plain program
-/
import Provision.Failure

namespace Provision

/-! ## §1. Commands. -/

/-- One invocation of a tool. -/
structure Command where
  /-- The program, looked up on the search path. -/
  program : String
  /-- The arguments, passed as they are. -/
  arguments : List String := []
  /-- The working directory, if it is not the current one. -/
  directory : Option Path := none
  deriving DecidableEq, Repr, Inhabited

namespace Command

/-- The program run through a privilege prefix, if there is one. -/
def elevated (privilege : Option String) (program : String) (arguments : List String)
    (directory : Option Path) : Command :=
  match privilege with
  | some p => ⟨p, program :: arguments, directory⟩
  | none => ⟨program, arguments, directory⟩

/-- Without a prefix the program stands first. -/
theorem elevated_none (program : String) (arguments : List String) (directory : Option Path) :
    elevated none program arguments directory = ⟨program, arguments, directory⟩ := rfl

/-- The prefix takes the place of the program, which becomes its first argument. -/
theorem elevated_some (p program : String) (arguments : List String)
    (directory : Option Path) :
    elevated (some p) program arguments directory
      = ⟨p, program :: arguments, directory⟩ := rfl

/-- The program and the arguments between blanks. -/
def line (c : Command) : String := String.intercalate " " (c.program :: c.arguments)

/-- Is `word` the program or one of the arguments? -/
def mentions (c : Command) (word : String) : Bool :=
  c.program == word || c.arguments.contains word

/-- Do the two commands do the same?  Their directories are compared by parts. -/
def same (c d : Command) : Bool :=
  c.program == d.program && c.arguments == d.arguments &&
    (match c.directory, d.directory with
      | none, none => true
      | some p, some q => p.sameParts q
      | _, _ => false)

/-- The failure of a command that ended with `code`. -/
def failure (c : Command) (code : Option Int) : Failure := .commandFailed c.line code

end Command

/-! ## §2. Captured output. -/

/-- What a captured command left. -/
structure Captured where
  /-- The exit code; none if a signal ended the process. -/
  code : Option Int
  stdout : String
  stderr : String
  /-- Did the command succeed? -/
  succeeded : Bool
  deriving DecidableEq, Repr, Inhabited

namespace Captured

/-- A successful command that printed the two texts. -/
def success (stdout stderr : String) : Captured := ⟨some 0, stdout, stderr, true⟩

/-- An unsuccessful command. -/
def failure (code : Option Int) (stdout stderr : String) : Captured :=
  ⟨code, stdout, stderr, false⟩

end Captured

end Provision
