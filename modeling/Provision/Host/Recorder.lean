/-
  Provision.Host.Recorder
  ───────────────────────
  **A HOST THAT RECORDS COMMANDS.**

  The recorder runs nothing.  It writes down every command it is given and
  answers by rules: a command that mentions a word of a failure rule fails
  with the code of that rule, and a captured command prints what was laid
  down for its program.

  Main results:

    `commands_answer`     every command is recorded, a failing one too
-/
import Provision.Procedure
import Provision.Text.Search

namespace Provision

/-! ## §1. Rules. -/

/-- Put a value at a key: a value that is there already is replaced. -/
def assign {α : Type} (key : String) (value : α) : List (String × α) → List (String × α)
  | [] => [(key, value)]
  | (k, v) :: rest => if k = key then (k, value) :: rest else (k, v) :: assign key value rest

/-- The rules of a recorder and the commands it was given so far. -/
structure Recorder where
  failures : List (String × Int) := []
  outputs : List (String × String) := []
  commands : List Command := []
  deriving Inhabited

namespace Recorder

/-- Let every command that mentions `word` fail with `code`. -/
def failOn (r : Recorder) (word : String) (code : Int) : Recorder :=
  { r with failures := assign word code r.failures }

/-- Let captured runs of `program` print `stdout`. -/
def withOutput (r : Recorder) (program stdout : String) : Recorder :=
  { r with outputs := assign program stdout r.outputs }

/-- The code with which a command fails. -/
def failureOf? (r : Recorder) (c : Command) : Option Int :=
  (r.failures.find? fun rule => c.mentions rule.1).map (·.2)

/-- The result of running a command. -/
def runResult (r : Recorder) (c : Command) : Except Failure Unit :=
  match r.failureOf? c with
  | some code => .error (c.failure (some code))
  | none => .ok ()

/-- The result of capturing a command. -/
def captureResult (r : Recorder) (c : Command) : Captured :=
  match r.failureOf? c with
  | some code => .failure (some code) "" ""
  | none => .success ((r.outputs.lookup c.program).getD "") ""

/-- Write a command down. -/
def record (r : Recorder) (c : Command) : Recorder :=
  { r with commands := r.commands ++ [c] }

/-! ## §2. The host. -/

/-- The recorder as a host: there are no tools, no files and no network. -/
def host : Host Recorder
  | .run c, r => (r.runResult c, r.record c)
  | .capture c, r => (.ok (r.captureResult c), r.record c)
  | .fetch _, r => (.ok ByteArray.empty, r)
  | .locate _, r => (none, r)
  | .createFile parent before after _, r => (.ok (parent.join ⟨before ++ after⟩), r)
  | .createDirectory parent before, r => (.ok (parent.join ⟨before⟩), r)
  | .discard _, r => ((), r)
  | .doesExist _, r => (false, r)
  | .read path, r => (.error (.io (.atPath .noEntry path)), r)
  | .tell _, r => ((), r)
  | .log _, r => ((), r)

/-- Commands are recorded in their order, whether run or captured. -/
theorem commands_answer (r : Recorder) (c : Command) :
    (host (.run c) r).2.commands = r.commands ++ [c] ∧
      (host (.capture c) r).2.commands = r.commands ++ [c] := ⟨rfl, rfl⟩

/-! ## §3. Looking at the record. -/

/-- The command lines so far. -/
def lines (r : Recorder) : List String := r.commands.map Command.line

/-- How many commands mention the word? -/
def countMentioning (r : Recorder) (word : String) : Nat :=
  r.commands.countP (·.mentions word)

/-- The number of the first command line that holds the text. -/
def position? (r : Recorder) (needle : String) : Option Nat :=
  r.lines.findIdx? fun l => Text.holds l needle

end Recorder

end Provision
