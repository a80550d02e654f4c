/-
  Provision.Yaml.BlockScalar
  ──────────────────────────
  **LITERAL AND FOLDED SCALARS.**

  A block scalar begins with a bar or an angle bracket, at most one digit for
  its indentation and at most one sign for the line breaks at its end.  Its
  lines are indented; without the digit the first line that is not empty says
  how far.  In a folded scalar a line break between two lines that do not
  begin with a blank becomes a blank.
-/
import Provision.Yaml.Cursor

namespace Provision.Yaml

/-! ## §1. The header. -/

/-- What becomes of the line breaks at the end of a block scalar. -/
inductive Chomping where
  | strip
  | clip
  | keep
  deriving DecidableEq, Repr, Inhabited

/-- The header of a block scalar. -/
structure BlockHeader where
  chomping : Chomping := .clip
  /-- How far the lines are indented against their parent. -/
  indent : Option Nat := none
  deriving DecidableEq, Repr, Inhabited

/-- A sign at the end of a header. -/
def chomping? : Char → Option Chomping
  | '+' => some .keep
  | '-' => some .strip
  | _ => none

/-- Read a digit for the indentation, if one stands here. -/
def readIndent (start : Mark) (h : BlockHeader) (c : Cursor) :
    Except Fault (BlockHeader × Cursor) :=
  match c.rest with
  | d :: _ =>
      if d == '0' then
        breach "while scanning a block scalar" start
          "found an indentation indicator equal to 0" c.mark
      else if d.isDigit then .ok ({ h with indent := some (d.toNat - 48) }, c.skip 1)
      else .ok (h, c)
  | [] => .ok (h, c)

/-- Read a sign for the line breaks at the end, if one stands here. -/
def readChomping (h : BlockHeader) (c : Cursor) : BlockHeader × Cursor :=
  match c.rest.head?.bind chomping? with
  | some k => ({ h with chomping := k }, c.skip 1)
  | none => (h, c)

/-- Read the header of a block scalar up to the end of its line. -/
def readBlockHeader (start : Mark) (c : Cursor) : Except Fault (BlockHeader × Cursor) := do
  let (h, d) := readChomping {} c
  let (h, d) ← if d.mark == c.mark then do
      let (h, d) ← readIndent start h d
      pure (if d.mark == c.mark then (h, d) else readChomping h d)
    else readIndent start h d
  let d := d.skipSpaces.skipComment
  if endsLine d.rest then
    return (h, d.skipBreak)
  else
    breach "while scanning a block scalar" start
      "did not find expected comment or line break" d.mark

/-! ## §2. The lines. -/

/-- The state of reading a block scalar; all texts have their last character
first. -/
structure BlockState where
  /-- The column of the lines, once it is known. -/
  indent : Option Nat
  /-- The greatest column before a line so far. -/
  widest : Nat := 0
  value : List Char := []
  /-- The line break after the last line. -/
  lineBreak : Option Char := none
  /-- The line breaks of the empty lines since then. -/
  emptyLines : List Char := []
  /-- Does the last line begin with a blank? -/
  blankStart : Bool := false
  /-- Where the scalar stops. -/
  stop : Mark
  deriving Inhabited

namespace BlockState

/-- The value with the line breaks before a line that begins with `c`. -/
def joined (s : BlockState) (folded : Bool) (c : Char) : List Char :=
  if folded && s.lineBreak == some '\n' && !s.blankStart && !isSpace c then
    (if s.emptyLines.isEmpty then [' '] else s.emptyLines) ++ s.value
  else s.emptyLines ++ s.lineBreak.toList ++ s.value

/-- The value at the end of the scalar. -/
def chomped (s : BlockState) (k : Chomping) : String :=
  let all := match k with
    | .strip => s.value
    | .clip => s.lineBreak.toList ++ s.value
    | .keep => s.emptyLines ++ s.lineBreak.toList ++ s.value
  String.ofList all.reverse

/-- Are blanks at this column part of the indentation? -/
def inIndent (s : BlockState) (m : Mark) : Bool :=
  match s.indent with
  | none => true
  | some n => m.column < n

/-- The column of the lines: the one that is known, or the widest so far, but
further in than the parent. -/
def lineColumn (s : BlockState) (least : Nat) (m : Mark) : Nat :=
  match s.indent with
  | some n => n
  | none => max (max s.widest m.column) (max least 1)

end BlockState

/-- Read the lines of a block scalar; `inLine` says whether a line has begun,
and `least` is one more than the column of the parent. -/
def readBlockLines (folded : Bool) (k : Chomping) (least : Nat) (start : Mark) :
    (inLine : Bool) → BlockState → Mark → List Char → Except Fault (String × Mark × Cursor)
  | true, s, m, [] => .ok ({ s with lineBreak := none, emptyLines := [] }.chomped k, m, ⟨m, []⟩)
  | true, s, m, c :: cs =>
      if isBreak c then
        match c, cs with
        | '\r', '\n' :: cs =>
            readBlockLines folded k least start false
              { s with lineBreak := some '\n', emptyLines := [], stop := m.newLine 2 }
              (m.newLine 2) cs
        | c, cs =>
            readBlockLines folded k least start false
              { s with lineBreak := some (breakValue c), emptyLines := [], stop := m.newLine 1 }
              (m.newLine 1) cs
      else readBlockLines folded k least start true { s with value := c :: s.value } (m.advance 1) cs
  | false, s, m, [] => .ok (s.chomped k, s.stop, ⟨m, []⟩)
  | false, s, m, c :: cs =>
      if s.inIndent m && c == ' ' then
        readBlockLines folded k least start false s (m.advance 1) cs
      else if s.inIndent m && c == '\t' then
        breach "while scanning a block scalar" start
          "found a tab character where an indentation space is expected" m
      else if isBreak c then
        let s := { s with widest := max s.widest m.column }
        match c, cs with
        | '\r', '\n' :: cs =>
            readBlockLines folded k least start false
              { s with emptyLines := '\n' :: s.emptyLines, stop := m.newLine 2 } (m.newLine 2) cs
        | c, cs =>
            readBlockLines folded k least start false
              { s with emptyLines := breakValue c :: s.emptyLines, stop := m.newLine 1 }
              (m.newLine 1) cs
      else
        let column := s.lineColumn least m
        if m.column == column then
          readBlockLines folded k least start true
            { s with
              indent := some column, value := c :: s.joined folded c, blankStart := isSpace c }
            (m.advance 1) cs
        else .ok (s.chomped k, s.stop, ⟨m, c :: cs⟩)

/-- Read a block scalar after its first character; `parent` is the column of
the block around it, if there is one. -/
def readBlock (folded : Bool) (parent : Option Nat) (start : Mark) (c : Cursor) :
    Except Fault (String × Mark × Cursor) := do
  let (h, c) ← readBlockHeader start c
  let least := match parent with
    | some n => n + 1
    | none => 0
  readBlockLines folded h.chomping least start false
    { indent := h.indent.map (· + parent.getD 0), stop := c.mark } c.mark c.rest

end Provision.Yaml
