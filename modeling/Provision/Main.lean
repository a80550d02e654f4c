/-
  Provision.Main
  ──────────────
  **THE PROGRAM.**

  The outer layer of the program: it looks at the working directory, the
  variables, the settings files and the search path, hands them to a session,
  and prints what the session has written.  No process is started from here,
  so that only a dry run goes through to its end.
-/
import Provision.Host.Session

namespace Provision.Main

open Provision.CommandLine

/-- The variables that a session asks for. -/
def variableNames : List String :=
  ["PATH", "TMPDIR", "NO_COLOR", "RUST_LOG"]
    ++ Parameter.withVariable.filterMap Parameter.fallback?

/-- What can be opened under a path: a file, or else a directory. -/
def openedAt (p : Path) : IO Entry := do
  try
    return .file (← IO.FS.readBinFile p.text) 0o755
  catch _ =>
    return .directory 0o755

/-- What is at a path, if anything is. -/
def entryAt (p : Path) : IO (Option Entry) := do
  try
    let _ ← IO.FS.Handle.mk p.text .read
    return some (← openedAt p)
  catch _ =>
    return none

/-- The paths that a session looks at, seen from the working directory. -/
def pathsOf (w : Surroundings) (words : List String) : List Path :=
  let settings := match CommandLine.read w.valueOf words with
    | .ok a =>
        a.config.toList ++ ((Run.projectRoot w.directory a.project).toOption.map
          Settings.projectFile).toList
    | .error _ => []
  let tools := (Path.searchPath (w.valueOf "PATH")).flatMap fun d =>
    [Prerequisite.downloadUtility, .jsRuntime, .javaCompiler].map fun t => d.join ⟨t.binary⟩
  w.temporaryDirectory :: (settings ++ tools)

/-- The files that a session looks at. -/
def filesFor (w : Surroundings) (words : List String) : IO FileSystem :=
  (pathsOf w words).foldlM (fun fs p => do
    let names := (w.directory.join p).parts
    match ← entryAt p with
    | some (.directory _) => return fs.insertDirectories names
    | some e => return (fs.insertDirectories names.dropLast).insert names e
    | none => return fs) (FileSystem.insertDirectories {} w.directory.parts)

end Provision.Main

open Provision in
/-- Run a session on the words of the command line. -/
def main (words : List String) : IO UInt32 := do
  let directory : Path := ⟨toString (← IO.currentDir)⟩
  let found ← Main.variableNames.mapM fun v => return (v, ← IO.getEnv v)
  let w : Surroundings :=
    { directory := directory, valueOf := fun v => (found.lookup v).join }
  let m : Machine :=
    { workingDirectory := directory.parts
      searchPath := w.valueOf "PATH"
      middles := (List.range 1000).map toString }
  let (code, s) := Session.start m w words { files := ← Main.filesFor w words }
  (← IO.getStdout).write s.stdout
  (← IO.getStderr).write s.stderr
  return code.toUInt32
