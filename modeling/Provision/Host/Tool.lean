/-
  Provision.Host.Tool
  ───────────────────
  **TOOLS OF A MACHINE.**

  A tool prints its texts, does its deeds and ends.  Which behaviour a tool
  shows can depend on its arguments: the first rule whose word is one of the
  arguments replaces the usual behaviour.
-/
import Provision.Command
import Provision.Host.Tarball

namespace Provision

/-! ## §1. Behaviour. -/

/-- How a process ends. -/
inductive Ending where
  /-- It exits with a code. -/
  | exited (code : Nat)
  /-- A signal ends it. -/
  | killed
  deriving DecidableEq, Repr, Inhabited

namespace Ending

/-- The exit code, if there is one. -/
def code? : Ending → Option Int
  | .exited n => some n
  | .killed => none

/-- Did the process succeed? -/
def succeeded (e : Ending) : Bool := e == .exited 0

end Ending

/-- What a tool does besides printing its own texts. -/
inductive Deed where
  /-- It prints the file that the first argument names. -/
  | showFile
  /-- It creates the file that the third argument names. -/
  | createFile
  /-- It unpacks the tarball of the second argument below the fourth. -/
  | unpack
  deriving DecidableEq, Repr, Inhabited

/-- What a tool does when it is run. -/
structure Behaviour where
  stdout : ByteArray := ByteArray.empty
  stderr : ByteArray := ByteArray.empty
  ending : Ending := .exited 0
  deeds : List Deed := []
  deriving Inhabited

/-- A tool with its usual behaviour and the rules for certain arguments. -/
structure Tool where
  usual : Behaviour := {}
  rules : List (String × Behaviour) := []
  deriving Inhabited

/-- The behaviour that a tool shows for its arguments. -/
def Tool.behaviour (t : Tool) (arguments : List String) : Behaviour :=
  ((t.rules.find? fun r => arguments.contains r.1).map (·.2)).getD t.usual

/-! ## §2. Processes. -/

/-- What a process has done when it has ended. -/
structure Outcome where
  files : FileSystem
  stdout : ByteArray := ByteArray.empty
  stderr : ByteArray := ByteArray.empty
  ending : Ending := .exited 0
  deriving Inhabited

namespace Outcome

/-- Go on with one deed, in a working directory. -/
def perform (cwd : List String) (arguments : List String) (o : Outcome) : Deed → Outcome
  | .showFile =>
      match arguments with
      | path :: _ =>
          { o with stdout := o.stdout ++ (o.files.read cwd ⟨path⟩).toOption.getD ByteArray.empty }
      | [] => o
  | .createFile =>
      match arguments with
      | [_, _, path] => { o with files := o.files.writeFile cwd ⟨path⟩ ByteArray.empty }
      | _ => o
  | .unpack =>
      match arguments with
      | [_, tarball, _, directory] =>
          { o with files := o.files.unpack cwd ⟨tarball⟩ ⟨directory⟩ }
      | _ => o

end Outcome

/-- Run a tool in a working directory. -/
def Tool.run (t : Tool) (fs : FileSystem) (cwd : List String) (arguments : List String) :
    Outcome :=
  let b := t.behaviour arguments
  b.deeds.foldl (Outcome.perform cwd arguments) ⟨fs, b.stdout, b.stderr, b.ending⟩

end Provision
