/-
  Provision.Host.Machine
  ──────────────────────
  **A HOST WITH FILES, TOOLS AND A NETWORK.**

  A machine has a working directory, a search path, tools at certain places
  and a network.  Its state is its files, what has reached the two streams of
  the program, and the calls that its tools have seen.  What a command that is
  run prints goes to the same streams; a captured command keeps its output to
  itself.

  Main results:

    `host_capture_streams`    a captured command prints nothing
-/
import Provision.Host.SearchPath
import Provision.Host.ShellScript
import Provision.Host.Tool
import Provision.Log.Writer
import Provision.Network
import Provision.Procedure
import Provision.Text.Utf8

namespace Provision

open Provision.Text

/-! ## §1. Machines. -/

/-- A machine, as far as a run does not change it. -/
structure Machine where
  workingDirectory : List String := []
  /-- The search path, if it is set. -/
  searchPath : Option String := none
  /-- The tools, by their places. -/
  tools : List (List String × Tool) := []
  network : Network := .unreachable
  /-- The middles of new names, in the order in which they are tried. -/
  middles : List String := []
  output : Output := {}
  log : LogWriter := ⟨⟨[]⟩, false⟩
  /-- The time that a command takes, as it is shown. -/
  elapsed : String := "0ns"
  deriving Inhabited

/-- A call that a tool has seen. -/
structure Call where
  tool : String
  arguments : List String
  directory : Path
  deriving DecidableEq, Repr, Inhabited

/-- The state of a machine during a run. -/
structure MachineState where
  files : FileSystem := {}
  /-- What has reached the streams of the program. -/
  stdout : ByteArray := ByteArray.empty
  stderr : ByteArray := ByteArray.empty
  calls : List Call := []
  deriving Inhabited

namespace MachineState

/-- Print a line on one of the streams. -/
def print (s : MachineState) (p : Printed) : MachineState :=
  let bytes := Utf8.encode (p.line ++ "\n")
  match p.stream with
  | .stdout => { s with stdout := s.stdout ++ bytes }
  | .stderr => { s with stderr := s.stderr ++ bytes }

end MachineState

namespace Machine

/-! ## §2. Starting processes. -/

/-- The fault of a program that may not be executed. -/
def permissionDenied : FileFault := .other "Permission denied (os error 13)"

/-- The fault of a file that is no program. -/
def noProgram : FileFault := .other "Exec format error (os error 8)"

/-- Where a program is looked for: its own path if it has a slash, else below
the directories of the search path. -/
def candidates (m : Machine) (program : String) : List Path :=
  if program.toList.contains '/' then [⟨program⟩]
  else if program == "" then []
  else
    let directories : List Path := match m.searchPath with
      | none => [⟨"/bin"⟩, ⟨"/usr/bin"⟩]
      | path => Path.searchPath path
    directories.map fun d => d.join ⟨program⟩

/-- The place and content of the first candidate that may be executed. -/
def findProgram (fs : FileSystem) (cwd : List String) (fault : FileFault) :
    List Path → Except FileFault (List String × ByteArray)
  | [] => .error fault
  | p :: ps =>
      match fs.resolve cwd p, fs.lookup cwd p with
      | .ok names, .ok (.file content mode) =>
          if (Entry.file content mode).isExecutable then .ok (names, content)
          else findProgram fs cwd permissionDenied ps
      | _, .ok _ => findProgram fs cwd permissionDenied ps
      | _, .error _ => findProgram fs cwd fault ps

/-- The place where a command runs. -/
def directoryOf (m : Machine) (fs : FileSystem) (c : Command) :
    Except FileFault (List String) :=
  match c.directory with
  | none => .ok m.workingDirectory
  | some p => do
      let names ← fs.resolve m.workingDirectory p
      match fs.get? names with
      | some (.directory _) => .ok names
      | some (.file ..) => .error .notDirectory
      | none => .error .noEntry

/-- Run a command as a process: what it did, and the call that a tool saw. -/
def process (m : Machine) (fs : FileSystem) (c : Command) :
    Except FileFault (Outcome × List Call) := do
  let cwd ← m.directoryOf fs c
  let (place, content) ← findProgram fs cwd .noEntry (m.candidates c.program)
  match m.tools.lookup place with
  | some tool =>
      .ok (tool.run fs cwd c.arguments,
        [⟨place.getLast?.getD "", c.arguments, FileSystem.pathOf cwd⟩])
  | none =>
      let text := Utf8.lossy content
      if ShellScript.isScript text then
        let (printed, code) := ShellScript.run (FileSystem.pathOf cwd).text text
        .ok (⟨fs, Utf8.encode printed, ByteArray.empty, .exited code⟩, [])
      else .error noProgram

/-! ## §3. Commands and downloads. -/

/-- Write a log line, if the filter lets it pass. -/
def note (m : Machine) (source : LogSource) (text : String) (s : MachineState) :
    MachineState :=
  match m.log.line? ⟨.debug, source, text⟩ with
  | some line => s.print ⟨.stderr, line⟩
  | none => s

/-- Run a command whose output goes to the streams of the program. -/
def run (m : Machine) (c : Command) (s : MachineState) : Except Failure Unit × MachineState :=
  let s := m.note .command ("Running: " ++ c.line) s
  match m.process s.files c with
  | .error fault =>
      (.error (c.failure none),
        m.note .command ("Failed to start " ++ c.program ++ ": " ++ fault.message) s)
  | .ok (o, calls) =>
      let s : MachineState :=
        ⟨o.files, s.stdout ++ o.stdout, s.stderr ++ o.stderr, s.calls ++ calls⟩
      let s := m.note .command
        (c.program ++ " exited with " ++ shownCode o.ending.code? ++ " after " ++ m.elapsed) s
      (if o.ending.succeeded then .ok () else .error (c.failure o.ending.code?), s)

/-- Run a command and keep its output. -/
def capture (m : Machine) (c : Command) (s : MachineState) :
    Except Failure Captured × MachineState :=
  match m.process s.files c with
  | .error _ => (.error (c.failure none), s)
  | .ok (o, calls) =>
      (.ok ⟨o.ending.code?, Utf8.lossy o.stdout, Utf8.lossy o.stderr, o.ending.succeeded⟩,
        { s with files := o.files, calls := s.calls ++ calls })

/-- Download what is at an address. -/
def fetch (m : Machine) (url : String) (s : MachineState) :
    Except Failure ByteArray × MachineState :=
  let s := m.note .download ("Fetching " ++ url) s
  match (m.network url).result url with
  | .error f => (.error f, s)
  | .ok bytes =>
      (.ok bytes,
        m.note .download ("Fetched " ++ toString bytes.size ++ " bytes from " ++ url) s)

/-- Put something new into the file system. -/
def create (m : Machine) (s : MachineState) (parent : Path) (before after : String)
    (e : Entry) : Except Failure Path × MachineState :=
  match s.files.freshPath m.workingDirectory parent before after m.middles with
  | .error f => (.error f, s)
  | .ok (path, names) => (.ok path, { s with files := s.files.insert names e })

/-! ## §4. The host. -/

/-- The machine as a host. -/
def host (m : Machine) : Host MachineState
  | .run c, s => m.run c s
  | .capture c, s => m.capture c s
  | .fetch url, s => m.fetch url s
  | .locate tool, s =>
      (s.files.locate m.workingDirectory (Path.searchPath m.searchPath) tool, s)
  | .createFile parent before after content, s =>
      m.create s parent before after (.file content 0o600)
  | .createDirectory parent before, s => m.create s parent before "" (.directory 0o700)
  | .discard path, s =>
      ((), match s.files.resolve m.workingDirectory path with
        | .ok names => { s with files := s.files.remove names }
        | .error _ => s)
  | .doesExist path, s => (s.files.doesExist m.workingDirectory path, s)
  | .read path, s => ((s.files.read m.workingDirectory path).mapError .io, s)
  | .tell n, s =>
      ((), match m.output.render n with
        | some p => s.print p
        | none => s)
  | .log e, s =>
      ((), match m.log.line? e with
        | some line => s.print ⟨.stderr, line⟩
        | none => s)

/-- What a captured command prints is kept from the user. -/
theorem host_capture_streams (m : Machine) (c : Command) (s : MachineState) :
    (m.host (.capture c) s).2.stdout = s.stdout ∧
      (m.host (.capture c) s).2.stderr = s.stderr := by
  simp only [host, capture]
  split <;> exact ⟨rfl, rfl⟩

end Machine

end Provision
