/-
  Provision.Host.Tarball
  ──────────────────────
  **WHAT UNPACKING LEAVES.**

  A source tarball holds one directory, named as the tarball without its
  ending, with the sources and their build file in it.
-/
import Provision.FileSystem

namespace Provision

/-- The ending of the name of a tarball. -/
def tarballEnding : List Char := ".tar.gz".toList

/-- The name of a tarball without its ending. -/
def tarballStem (p : Path) : String :=
  let name := (p.fileName?.getD "").toList
  String.ofList
    (if tarballEnding.isSuffixOf name then name.take (name.length - tarballEnding.length)
    else name)

namespace FileSystem

/-- The names that a path spells out, seen from a working directory. -/
def spelled (cwd : List String) (p : Path) : List String :=
  if p.isAbsolute then p.parts else cwd ++ p.parts

/-- Put a file where a path points to, if its directory exists. -/
def writeFile (fs : FileSystem) (cwd : List String) (p : Path) (content : ByteArray) :
    FileSystem :=
  match fs.resolve cwd p with
  | .ok names =>
      match fs.get? names.dropLast with
      | some (.directory _) => fs.insert names (.file content 0o644)
      | _ => fs
  | .error _ => fs

/-- Unpack a source tarball below a directory. -/
def unpack (fs : FileSystem) (cwd : List String) (tarball directory : Path) : FileSystem :=
  let names := spelled cwd (directory.join ⟨tarballStem tarball⟩)
  (fs.insertDirectories (names ++ ["src"])).insert (names ++ ["CMakeLists.txt"])
    (.file ByteArray.empty 0o644)

end FileSystem

end Provision
