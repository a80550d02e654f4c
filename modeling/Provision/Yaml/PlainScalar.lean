/-
  Provision.Yaml.PlainScalar
  ──────────────────────────
  **SCALARS WITHOUT QUOTES.**

  A plain scalar goes on until a comment, a document marker, a colon before
  the end of a word or, inside brackets, one of the characters of the bracket
  notation; outside brackets a line that is not indented far enough ends it
  too.  Line breaks fold.
-/
import Provision.Yaml.Folding

namespace Provision.Yaml

/-- The characters of the bracket notation. -/
def isFlowChar (c : Char) : Bool :=
  c == ',' || c == '[' || c == ']' || c == '\x7b' || c == '\x7d'

/-- Where plain scalars may go on. -/
structure PlainPlace where
  inFlow : Bool
  /-- The least column of a line that goes on with the scalar. -/
  indent : Nat
  /-- Where the scalar starts. -/
  start : Mark
  deriving Inhabited

/-- A plain scalar: its value, where it stops, the cursor after what follows
it, and whether a line break stands there. -/
structure PlainScalar where
  value : String
  stop : Mark
  cursor : Cursor
  broken : Bool
  deriving DecidableEq, Repr, Inhabited

/-- The plain scalar of the characters read, the last one first, which stops
before a gap. -/
def PlainScalar.upTo (value : List Char) (stop : Mark) (gap : Gap) (rest : Cursor) :
    PlainScalar :=
  ⟨String.ofList value.reverse, stop, rest, gap.hasBreak⟩

/-- Read a plain scalar: the value so far, the last character first, what
stands since its last word, and where that word stops. -/
def readPlain (p : PlainPlace) :
    List Char → Gap → Mark → Mark → List Char → Except Fault PlainScalar
  | value, gap, stop, m, [] =>
      .ok (.upTo value stop gap ⟨m, []⟩)
  | value, gap, stop, m, c :: cs =>
      if isSpace c then
        if c == '\t' && gap.hasBreak && m.column < p.indent then
          breach "while scanning a plain scalar" p.start
            "found a tab character that violates indentation" m
        else readPlain p value (gap.pushBlank c) stop (m.advance 1) cs
      else if isBreak c then
        match c, cs with
        | '\r', '\n' :: cs => readPlain p value (gap.pushBreak '\n') stop (m.newLine 2) cs
        | c, cs => readPlain p value (gap.pushBreak (breakValue c)) stop (m.newLine 1) cs
      else if (gap != .none && !p.inFlow && m.column < p.indent)
          || (m.column == 0 && atMarker (c :: cs))
          || (c == '#' && (gap != .none || value.isEmpty)) then
        .ok (.upTo value stop gap ⟨m, c :: cs⟩)
      else if p.inFlow && c == ':' && cs.head?.any (fun d => isFlowChar d || d == '?') then
        breach "while scanning a plain scalar" p.start "found unexpected ':'" m
      else if (c == ':' && endsWord cs) || (p.inFlow && isFlowChar c) then
        .ok (.upTo value stop gap ⟨m, c :: cs⟩)
      else readPlain p (c :: (gap.folded ++ value)) .none (m.advance 1) (m.advance 1) cs

end Provision.Yaml
