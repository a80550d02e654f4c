/-
  Provision.Host.Script
  ─────────────────────
  **A HOST THAT FOLLOWS A SCRIPT.**

  The script says which tools are present, what a download brings, what
  captured commands print and which commands fail.  The host keeps a small
  file system for what the steps create, and an account of what happened: the
  commands, and between them what was logged and printed.
-/
import Provision.Host.SearchPath
import Provision.Host.Tarball
import Provision.Procedure
import Provision.Text.Utf8

namespace Provision

open Provision.Text

/-! ## §1. Scripts. -/

/-- What a download brings. -/
inductive DownloadScript where
  | body (bytes : ByteArray)
  /-- The download fails with a text. -/
  | refused (text : String)
  /-- Something else fails. -/
  | broken (text : String)
  deriving Inhabited

/-- What a captured command prints. -/
structure ToolScript where
  stdout : String := ""
  stderr : String := ""
  /-- The tool cannot be started at all. -/
  cannotStart : Bool := false
  deriving Inhabited

/-- Which commands a failure rule is for. -/
inductive FailureTest where
  | mentions (word : String)
  | lineHolds (text : String)
  /-- The command with this number, counted from the first one. -/
  | number (n : Nat)
  deriving Inhabited

namespace FailureTest

/-- Is the rule for this command, the `n`-th one? -/
def applies (t : FailureTest) (n : Nat) (c : Command) : Bool :=
  match t with
  | .mentions word => c.mentions word
  | .lineHolds text => holds c.line text
  | .number m => m == n

end FailureTest

/-- The script of a host. -/
structure Script where
  /-- The tools that are present. -/
  present : List String := []
  download : DownloadScript := .body ByteArray.empty
  tools : List (String × ToolScript) := []
  /-- Failure rules with their exit codes; the first that applies decides. -/
  failures : List (FailureTest × Option Int) := []
  /-- Do `wget` and `tar` leave the files that they would? -/
  stages : Bool := false
  output : Output := {}
  /-- The scratch directory. -/
  scratch : List String := []
  /-- The middles of new names, in the order in which they are tried. -/
  middles : List String := []
  deriving Inhabited

/-! ## §2. The account of a run. -/

/-- What happened on the host. -/
inductive HostEvent where
  /-- A command that was run, with what the scratch directory held then and
  the text of its shell script. -/
  | run (c : Command) (scratch : List String) (shellScript : Option String)
  /-- A command that was captured. -/
  | capture (c : Command) (scratch : List String) (shellScript : Option String)
  | stdout (text : String)
  | stderr (text : String)
  | log (entry : LogEntry)
  deriving Inhabited

/-- The state of a scripted host. -/
structure ScriptState where
  files : FileSystem := {}
  /-- The number of commands so far. -/
  count : Nat := 0
  events : List HostEvent := []
  /-- What was logged and told since the last command. -/
  logs : List LogEntry := []
  notices : List Notice := []
  deriving Inhabited

namespace ScriptState

/-- A text that was printed, if it is not empty. -/
def printed (make : String → HostEvent) (lines : List String) : List HostEvent :=
  if lines.isEmpty then [] else [make (String.join (lines.map (· ++ "\n")))]

/-- Enter what was logged and printed since the last command. -/
def settle (s : ScriptState) (o : Output) : ScriptState :=
  { s with
    events := s.events ++ s.logs.map .log ++ printed .stdout (o.lines .stdout s.notices)
      ++ printed .stderr (o.lines .stderr s.notices)
    logs := []
    notices := [] }

end ScriptState

namespace Script

/-! ## §3. Commands. -/

/-- The text of the first argument that names a shell script. -/
def shellScript? (fs : FileSystem) (c : Command) : Option String := do
  let name ← c.arguments.find? fun a => ".sh".toList.isSuffixOf a.toList
  match fs.read [] ⟨name⟩ with
  | .ok bytes => some (Utf8.lossy bytes)
  | .error _ => none

/-- What the tools leave behind. -/
def stage (script : Script) (c : Command) (fs : FileSystem) : FileSystem :=
  if !script.stages then fs
  else match c.program, c.arguments with
    | "wget", [_, _, target] => fs.writeFile [] ⟨target⟩ ByteArray.empty
    | "tar", [_, tarball, _, directory] => fs.unpack [] ⟨tarball⟩ ⟨directory⟩
    | _, _ => fs

/-- The exit code of the first rule that is for a command. -/
def failureOf? (script : Script) (n : Nat) (c : Command) : Option (Option Int) :=
  (script.failures.find? fun rule => rule.1.applies n c).map (·.2)

/-- Enter a command into the account and let it leave its files. -/
def enter (script : Script)
    (make : Command → List String → Option String → HostEvent) (c : Command)
    (s : ScriptState) : ScriptState :=
  let s := s.settle script.output
  { s with
    events := s.events ++ [make c (s.files.listing script.scratch) (shellScript? s.files c)]
    files := script.stage c s.files
    count := s.count + 1 }

/-- The result of running the `n`-th command. -/
def runResult (script : Script) (n : Nat) (c : Command) : Except Failure Unit :=
  match script.failureOf? n c with
  | some code => .error (c.failure code)
  | none => .ok ()

/-- The result of capturing the `n`-th command. -/
def captureResult (script : Script) (n : Nat) (c : Command) : Except Failure Captured :=
  let tool := (script.tools.lookup c.program).getD {}
  if tool.cannotStart then .error (c.failure none)
  else match script.failureOf? n c with
    | some code => .ok (.failure code tool.stdout tool.stderr)
    | none => .ok (.success tool.stdout tool.stderr)

/-- The result of a download. -/
def fetchResult (script : Script) (url : String) : Except Failure ByteArray :=
  match script.download with
  | .body bytes => .ok bytes
  | .refused text => .error (.downloadFailed url text)
  | .broken text => .error (.other text [])

/-! ## §4. The host. -/

/-- Put something new into the file system. -/
def create (script : Script) (s : ScriptState) (parent : Path) (before after : String)
    (e : Entry) : Except Failure Path × ScriptState :=
  match s.files.freshPath [] parent before after script.middles with
  | .error f => (.error f, s)
  | .ok (path, names) => (.ok path, { s with files := s.files.insert names e })

/-- The scripted host. -/
def host (script : Script) : Host ScriptState
  | .run c, s => (script.runResult s.count c, script.enter .run c s)
  | .capture c, s => (script.captureResult s.count c, script.enter .capture c s)
  | .fetch url, s => (script.fetchResult url, s)
  | .locate tool, s => (locateAmong script.present tool, s)
  | .createFile parent before after content, s =>
      script.create s parent before after (.file content 0o600)
  | .createDirectory parent before, s =>
      script.create s parent before "" (.directory 0o700)
  | .discard path, s =>
      ((), match s.files.resolve [] path with
        | .ok names => { s with files := s.files.remove names }
        | .error _ => s)
  | .doesExist path, s => (s.files.doesExist [] path, s)
  | .read path, s => ((s.files.read [] path).mapError .io, s)
  | .tell n, s => ((), { s with notices := s.notices ++ [n] })
  | .log e, s => ((), { s with logs := s.logs ++ [e] })

/-- The result and the account of a procedure on a scripted host, from a
state on; without a network a download is only announced. -/
def perform {α : Type} (script : Script) (network : Bool) (p : Procedure α)
    (s : ScriptState) : Except Failure α × ScriptState :=
  let host := if network then script.host else withoutNetwork script.host
  let r := p.perform host { s with events := [], logs := [], notices := [] }
  (r.1, r.2.settle script.output)

end Script

end Provision
