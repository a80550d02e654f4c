/-
  Provision.FileSystem
  ────────────────────
  **FILES AND DIRECTORIES BY NAME.**

  A file system gives, for the list of names that leads from the root to a
  place, the file or directory at that place.  A path is resolved step by
  step: every name but the last must be a directory, a step upwards goes back
  by one name, and a slash or a dot at the end asks for a directory.

  Main results:

    `remove_insert_fresh`    removing what was newly put in restores the rest
-/
import Provision.Failure

namespace Provision

/-! ## §1. Entries. -/

/-- What can be at a place. -/
inductive Entry where
  | directory (mode : Nat)
  | file (content : ByteArray) (mode : Nat)

/-- The permission bits of an entry. -/
def Entry.mode : Entry → Nat
  | .directory m => m
  | .file _ m => m

/-- Does one of the three permissions to execute hold? -/
def Entry.isExecutable (e : Entry) : Bool := e.mode &&& 0o111 != 0

/-- The entries of a file system by the names that lead to them. -/
structure FileSystem where
  entries : List (List String × Entry) := []
  deriving Inhabited

namespace FileSystem

/-- What is at a place; the root is always a directory. -/
def get? (fs : FileSystem) : List String → Option Entry
  | [] => some (.directory 0o755)
  | names => fs.entries.lookup names

/-- Put an entry at a place, in front of what was there. -/
def insert (fs : FileSystem) (names : List String) (e : Entry) : FileSystem :=
  ⟨(names, e) :: fs.entries.filter fun p => p.1 != names⟩

/-- Remove a place and all that is below it. -/
def remove (fs : FileSystem) (names : List String) : FileSystem :=
  ⟨fs.entries.filter fun p => !names.isPrefixOf p.1⟩

/-- Put in the directories that lead to a place, and one at the place itself. -/
def insertDirectories (fs : FileSystem) (names : List String) : FileSystem :=
  (((List.range names.length).map fun n => names.take (n + 1)).filter
    fun p => (fs.get? p).isNone).foldl (fun fs p => fs.insert p (.directory 0o755)) fs

/-- **A new entry that is removed again leaves no trace**, if nothing lay below its
name. -/
theorem remove_insert_fresh {fs : FileSystem} {names : List String} {e : Entry}
    (h : ∀ p ∈ fs.entries, names.isPrefixOf p.1 = false) :
    (fs.insert names e).remove names = fs := by
  obtain ⟨entries⟩ := fs
  have hself : names.isPrefixOf names = true := by simp
  have hne : ∀ p ∈ entries, (p.1 != names) = true := by
    intro p hp
    by_cases hn : p.1 = names
    · have := h p hp; rw [hn, hself] at this; exact absurd this (by simp)
    · simpa using hn
  simp only [insert, remove, List.filter_cons, hself, Bool.not_true, FileSystem.mk.injEq]
  rw [if_neg (by simp), List.filter_eq_self.2 hne]
  exact List.filter_eq_self.2 fun p hp => by simp [h p hp]

/-! ## §2. Resolving paths. -/

/-- Go on from a place along names. -/
def walk (fs : FileSystem) : List String → List String → Except FileFault (List String)
  | here, [] => .ok here
  | here, name :: rest =>
      match fs.get? here with
      | none => .error .noEntry
      | some (.file ..) => .error .notDirectory
      | some (.directory _) =>
          if name == "" || name == "." then fs.walk here rest
          else if name == ".." then fs.walk here.dropLast rest
          else fs.walk (here ++ [name]) rest

/-- The place that a path names, seen from a working directory. -/
def resolve (fs : FileSystem) (cwd : List String) (p : Path) : Except FileFault (List String) :=
  if p.text == "" then .error .noEntry
  else fs.walk (if p.isAbsolute then [] else cwd) (Text.pieces '/' p.text)

/-- What is at the place that a path names. -/
def lookup (fs : FileSystem) (cwd : List String) (p : Path) : Except FileFault Entry := do
  let names ← fs.resolve cwd p
  match fs.get? names with
  | some e => .ok e
  | none => .error .noEntry

/-- Does something exist under the path? -/
def doesExist (fs : FileSystem) (cwd : List String) (p : Path) : Bool :=
  (fs.lookup cwd p).isOk

/-- The bytes of the file under the path. -/
def read (fs : FileSystem) (cwd : List String) (p : Path) : Except FileFault ByteArray := do
  match ← fs.lookup cwd p with
  | .file content _ => .ok content
  | .directory _ => .error .isDirectory

/-- Is there something with a permission to execute under the path? -/
def isExecutable (fs : FileSystem) (cwd : List String) (p : Path) : Bool :=
  match fs.lookup cwd p with
  | .ok e => e.isExecutable
  | .error _ => false

/-- Is there a regular file with a permission to execute under the path? -/
def isTool (fs : FileSystem) (cwd : List String) (p : Path) : Bool :=
  match fs.lookup cwd p with
  | .ok e@(.file ..) => e.isExecutable
  | _ => false

/-! ## §3. New names and listings. -/

/-- The path of a place. -/
def pathOf (names : List String) : Path := ⟨"/" ++ String.intercalate "/" names⟩

/-- A path below `parent` under which nothing exists, its name between
`before` and `after`. -/
def freshPath (fs : FileSystem) (cwd : List String) (parent : Path)
    (before after : String) : List String → Except Failure (Path × List String)
  | [] => .error (.io (.atPath (.other "too many temporary files exist") parent))
  | middle :: more =>
      let path := ((pathOf cwd).join parent).join ⟨before ++ middle ++ after⟩
      match fs.resolve cwd path with
      | .error e => .error (.io (.atPath e path))
      | .ok names =>
          match names.dropLast, fs.get? names.dropLast, fs.get? names with
          | _, some (.directory _), none => .ok (path, names)
          | _, some (.directory _), some _ => freshPath fs cwd parent before after more
          | _, some (.file ..), _ => .error (.io (.atPath .notDirectory path))
          | _, none, _ => .error (.io (.atPath .noEntry path))

/-- Everything below a place: the names from there on with slashes between
them, a directory with a slash at its end. -/
def listing (fs : FileSystem) (names : List String) : List String :=
  (fs.entries.filterMap fun p =>
    if names.isPrefixOf p.1 && names.length < p.1.length then
      let rel := String.intercalate "/" (p.1.drop names.length)
      some (match p.2 with
        | .directory _ => rel ++ "/"
        | .file .. => rel)
    else none).mergeSort

end FileSystem

end Provision
