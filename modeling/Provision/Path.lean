/-
  Provision.Path
  ──────────────
  **PATHS AS TEXTS WITH SLASHES.**

  A path is the text that names a file.  Joining puts one path below another
  and normalises nothing; two paths are the same place in a listing when
  their parts agree; making a path absolute resolves it against a working
  directory, once and for all; a search path is a text of directories between
  colons.

  Main results:

    `join_of_absolute`      an absolute path replaces what it is joined to
    `absolute_empty`        the empty path has no absolute form
-/
import Provision.Text.Search

namespace Provision

open Provision.Text

/-- A path, as the text that names it. -/
structure Path where
  text : String
  deriving DecidableEq, Repr, Inhabited, Hashable

namespace Path

/-! ## §1. Joining. -/

/-- Does the path begin at the root? -/
def isAbsolute (p : Path) : Bool := p.text.toList.head? == some '/'

/-- Does the path end in a slash? -/
def endsInSlash (p : Path) : Bool := p.text.toList.getLast? == some '/'

/-- The path `child` below `p`: an absolute child replaces `p`, and one slash
is put between the two unless `p` is empty or ends in one. -/
def join (p child : Path) : Path :=
  if child.isAbsolute then child
  else if p.text.toList.isEmpty || p.endsInSlash then ⟨p.text ++ child.text⟩
  else ⟨p.text ++ "/" ++ child.text⟩

/-- **An absolute path replaces what it is joined to.** -/
theorem join_of_absolute {p child : Path} (h : child.isAbsolute = true) :
    p.join child = child := by
  simp [join, h]

/-! ## §2. Parts. -/

/-- The names between the slashes, without the empty ones and the dots. -/
def parts (p : Path) : List String :=
  (pieces '/' p.text).filter fun s => s != "" && s != "."

/-- Does a relative path begin with a dot of its own? -/
def beginsWithDot (p : Path) : Bool :=
  !p.isAbsolute && (pieces '/' p.text).head? == some "."

/-- Do the two paths have the same parts?  Repeated and trailing slashes and
inner dots make no difference. -/
def sameParts (p q : Path) : Bool :=
  p.isAbsolute == q.isAbsolute && p.beginsWithDot == q.beginsWithDot && p.parts == q.parts

/-- The last name of a path, if it is not a step upwards. -/
def fileName? (p : Path) : Option String :=
  p.parts.getLast?.filter (· != "..")

/-! ## §3. Absolute paths. -/

/-- Where a path starts from: two leading slashes are a root of their own,
any other number of them is the plain root. -/
def base (p cwd : Path) : Path :=
  match p.text.toList with
  | '/' :: '/' :: '/' :: _ => ⟨"/"⟩
  | '/' :: '/' :: _ => ⟨"//"⟩
  | '/' :: _ => ⟨"/"⟩
  | _ => cwd

/-- The path resolved against a working directory: dots and repeated slashes
go, steps upwards and a trailing slash stay.  An empty path has no such form. -/
def absolute? (cwd p : Path) : Option Path :=
  if p.text.toList.isEmpty then none
  else
    let body := p.parts.foldl (fun q s => q.join ⟨s⟩) (p.base cwd)
    some (if p.endsInSlash then body.join ⟨""⟩ else body)

/-- The empty path has no absolute form. -/
theorem absolute_empty (cwd : Path) : absolute? cwd ⟨""⟩ = none := rfl

/-! ## §4. Search paths. -/

/-- The directories of a search path, one for each text between colons; an
unset search path has none. -/
def searchPath : Option String → List Path
  | none => []
  | some text => (pieces ':' text).map Path.mk

end Path

end Provision
