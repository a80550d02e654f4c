/-
  Provision.Yaml.Cursor
  ─────────────────────
  **CHARACTERS AND THE PLACE BEFORE THE REST OF A TEXT.**

  A cursor is the rest of a text together with its mark.  There are five line
  breaks; a carriage return and a line feed together are one of them.  When a
  break becomes part of a value it is a line feed, the line and paragraph
  separators aside, which stay what they are.

  Main results:

    `takeRun_append`     a run and what is left of it make up the text
-/
import Provision.Yaml.Mark

namespace Provision.Yaml

/-! ## §1. Classes of characters. -/

/-- The characters that end a line. -/
def isBreak (c : Char) : Bool :=
  c == '\n' || c == '\r' || c == '\x85' || c == '\u2028' || c == '\u2029'

/-- A blank or a tab. -/
def isSpace (c : Char) : Bool := c == ' ' || c == '\t'

/-- A letter, a digit, an underscore or a hyphen. -/
def isNameChar (c : Char) : Bool := c.isAlphanum || c == '_' || c == '-'

/-- Does the text end here, or go on with a blank, a tab or a line break? -/
def endsWord : List Char → Bool
  | [] => true
  | c :: _ => isSpace c || isBreak c

/-- Does the line end here? -/
def endsLine : List Char → Bool
  | [] => true
  | c :: _ => isBreak c

/-- Does a document marker stand here: three hyphens or dots and the end of a word? -/
def atMarker : List Char → Bool
  | '-' :: '-' :: '-' :: cs => endsWord cs
  | '.' :: '.' :: '.' :: cs => endsWord cs
  | _ => false

/-- The characters that a document may hold. -/
def isAllowed (c : Char) : Bool :=
  let n := c.toNat
  n == 0x09 || n == 0x0A || n == 0x0D || (0x20 ≤ n && n ≤ 0x7E) || n == 0x85
    || (0xA0 ≤ n && n ≤ 0xD7FF) || (0xE000 ≤ n && n ≤ 0xFFFD) || 0x10000 ≤ n

/-- What a line break is in a value. -/
def breakValue (c : Char) : Char := if c == '\u2028' || c == '\u2029' then c else '\n'

/-- Drop one line break, if one stands here: its value, its length and the rest. -/
def takeBreak? : List Char → Option (Char × Nat × List Char)
  | '\r' :: '\n' :: cs => some ('\n', 2, cs)
  | c :: cs => if isBreak c then some (breakValue c, 1, cs) else none
  | [] => none

/-! ## §2. Cursors. -/

/-- The rest of a text and its mark. -/
structure Cursor where
  mark : Mark := {}
  rest : List Char
  deriving DecidableEq, Repr, Inhabited

namespace Cursor

/-- Go past `n` characters that are no line breaks. -/
def skip (c : Cursor) (n : Nat) : Cursor := ⟨c.mark.advance n, c.rest.drop n⟩

/-- Go past the longest run of characters that satisfy `p`. -/
def skipWhile (c : Cursor) (p : Char → Bool) : Cursor :=
  ⟨c.mark.advance (c.rest.takeWhile p).length, c.rest.dropWhile p⟩

/-- The longest run of characters that satisfy `p`, and the cursor after it. -/
def takeRun (c : Cursor) (p : Char → Bool) : List Char × Cursor :=
  (c.rest.takeWhile p, c.skipWhile p)

/-- Go past blanks and tabs. -/
def skipSpaces (c : Cursor) : Cursor := c.skipWhile isSpace

/-- Go past a comment, if one stands here. -/
def skipComment (c : Cursor) : Cursor :=
  match c.rest with
  | '#' :: _ => c.skipWhile fun x => !isBreak x
  | _ => c

/-- Go past a line break, if one stands here. -/
def skipBreak (c : Cursor) : Cursor :=
  match takeBreak? c.rest with
  | some (_, n, rest) => ⟨c.mark.newLine n, rest⟩
  | none => c

/-- Does the cursor stand before `x`? -/
def at? (c : Cursor) (x : Char) : Bool := c.rest.head? == some x

/-- Nothing is lost: what was taken and what is left are what was there. -/
theorem takeRun_append (c : Cursor) (p : Char → Bool) :
    (c.takeRun p).1 ++ (c.takeRun p).2.rest = c.rest :=
  List.takeWhile_append_dropWhile

end Cursor

/-! ## §3. Going to the next token. -/

/-- Go past blanks, comments and line breaks.  Tabs are gone past inside
brackets and where no key may begin; after a line break outside brackets a
key may begin again. -/
def skipToToken (inFlow : Bool) : (keyAllowed inComment : Bool) → Mark → List Char → Bool × Cursor
  | keyAllowed, _, m, [] => (keyAllowed, ⟨m, []⟩)
  | keyAllowed, true, m, c :: cs =>
      if isBreak c then
        match c, cs with
        | '\r', '\n' :: cs => skipToToken inFlow (keyAllowed || !inFlow) false (m.newLine 2) cs
        | _, cs => skipToToken inFlow (keyAllowed || !inFlow) false (m.newLine 1) cs
      else skipToToken inFlow keyAllowed true (m.advance 1) cs
  | keyAllowed, false, m, c :: cs =>
      if m.index == 0 && c == '\uFEFF' then
        skipToToken inFlow keyAllowed false (m.advance 1) cs
      else if c == ' ' || (c == '\t' && (inFlow || !keyAllowed)) then
        skipToToken inFlow keyAllowed false (m.advance 1) cs
      else if c == '#' then skipToToken inFlow keyAllowed true (m.advance 1) cs
      else if isBreak c then
        match c, cs with
        | '\r', '\n' :: cs => skipToToken inFlow (keyAllowed || !inFlow) false (m.newLine 2) cs
        | _, cs => skipToToken inFlow (keyAllowed || !inFlow) false (m.newLine 1) cs
      else (keyAllowed, ⟨m, c :: cs⟩)

end Provision.Yaml
