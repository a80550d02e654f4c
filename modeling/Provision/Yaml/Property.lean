/-
  Provision.Yaml.Property
  ───────────────────────
  **DIRECTIVES, ANCHORS, ALIASES AND TAGS.**

  Each of these tokens begins with a character of its own: a percent sign, an
  ampersand, an asterisk, an exclamation mark.  A tag is a handle with a
  suffix, or a whole tag between angle brackets; octets of a suffix can be
  escaped.
-/
import Provision.Yaml.Token
import Provision.Yaml.QuotedScalar

namespace Provision.Yaml

/-! ## §1. Anchors and aliases. -/

/-- May an anchor end before the rest? -/
def endsAnchor (cs : List Char) : Bool :=
  endsWord cs || cs.head?.any fun c =>
    c == '?' || c == ':' || c == ',' || c == ']' || c == '\x7d' || c == '%' || c == '@'
      || c.toNat == 96

/-- Read the name of an anchor or alias after its first character. -/
def readAnchor (activity : String) (start : Mark) (c : Cursor) :
    Except Fault (String × Cursor) :=
  let (name, d) := c.takeRun isNameChar
  if name.isEmpty || !endsAnchor d.rest then
    breach activity start "did not find expected alphabetic or numeric character" d.mark
  else .ok (String.ofList name, d)

/-! ## §2. Tags. -/

/-- The characters of a tag; the last three only between angle brackets. -/
def isTagChar (verbatim : Bool) (c : Char) : Bool :=
  isNameChar c || ";/?:@&=+$.%!~*'()".toList.contains c
    || (verbatim && (c == ',' || c == '[' || c == ']'))

/-- How many octets a character takes whose first octet is `n`. -/
def octetCount? (n : Nat) : Option Nat :=
  if n < 0x80 then some 1
  else if n / 32 == 6 then some 2
  else if n / 16 == 14 then some 3
  else if n / 8 == 30 then some 4
  else none

/-- The bits of the first octet of a character of so many octets. -/
def firstBits (count n : Nat) : Nat :=
  match count with
  | 1 => n
  | 2 => n % 32
  | 3 => n % 16
  | _ => n % 8

/-- Read the characters of a tag.  `pending` holds how many octets of an
escaped character are still to come, and its bits so far. -/
def readTagChars (activity : String) (start : Mark) (verbatim : Bool) :
    Option (Nat × Nat) → List Char → Mark → List Char → Except Fault (List Char × Cursor)
  | pending, acc, m, '%' :: a :: b :: cs =>
      match hexDigit? a, hexDigit? b with
      | some h, some l =>
          let n := h * 16 + l
          let next : Except Fault (Nat × Nat) :=
            match pending with
            | none =>
                match octetCount? n with
                | some k => .ok (k - 1, firstBits k n)
                | none => breach activity start "found an incorrect leading UTF-8 octet" m
            | some (k, bits) =>
                if n / 64 == 2 then .ok (k - 1, bits * 64 + n % 64)
                else breach activity start "found an incorrect trailing UTF-8 octet" m
          match next with
          | .error e => .error e
          | .ok (0, bits) =>
              readTagChars activity start verbatim none (Char.ofNat bits :: acc) (m.advance 3) cs
          | .ok p => readTagChars activity start verbatim (some p) acc (m.advance 3) cs
      | _, _ => breach activity start "did not find URI escaped octet" m
  | none, acc, m, c :: cs =>
      if c == '%' then breach activity start "did not find URI escaped octet" m
      else if isTagChar verbatim c then
        readTagChars activity start verbatim none (c :: acc) (m.advance 1) cs
      else .ok (acc.reverse, ⟨m, c :: cs⟩)
  | none, acc, m, [] => .ok (acc.reverse, ⟨m, []⟩)
  | some _, _, m, _ => breach activity start "did not find URI escaped octet" m

/-- Read the suffix of a tag, which is not empty unless `mayBeEmpty`. -/
def readTagText (activity : String) (start : Mark) (verbatim mayBeEmpty : Bool) (c : Cursor) :
    Except Fault (String × Cursor) := do
  let (text, d) ← readTagChars activity start verbatim none [] c.mark c.rest
  if d.mark == c.mark && !mayBeEmpty then
    breach activity start "did not find expected tag URI" d.mark
  else
    return (String.ofList text, d)

/-- Read the handle of a tag: an exclamation mark, a name and perhaps a second
exclamation mark. -/
def readTagHandle (directive : Bool) (start : Mark) (c : Cursor) :
    Except Fault (String × Cursor) :=
  if !c.at? '!' then
    breach (if directive then "while scanning a tag directive" else "while scanning a tag") start
      "did not find expected '!'" c.mark
  else
    let (name, d) := (c.skip 1).takeRun isNameChar
    if d.at? '!' then .ok (String.ofList ('!' :: name ++ ['!']), d.skip 1)
    else if directive && !name.isEmpty then
      breach "while parsing a tag directive" start "did not find expected '!'" d.mark
    else .ok (String.ofList ('!' :: name), d)

/-- Read the handle and the suffix of a tag that begins at `c`. -/
def readTagParts (c : Cursor) : Except Fault (String × String × Cursor) :=
  match c.rest with
  | '!' :: '<' :: _ => do
      let (suffix, d) ← readTagText "while parsing a tag" c.mark true false (c.skip 2)
      if d.at? '>' then return ("", suffix, d.skip 1)
      else breach "while scanning a tag" c.mark "did not find the expected '>'" d.mark
  | _ => do
      let (handle, d) ← readTagHandle false c.mark c
      match handle.toList with
      | '!' :: name =>
          if name.getLast? == some '!' then
            let (suffix, d) ← readTagText "while parsing a tag" c.mark false false d
            return (handle, suffix, d)
          else
            let (more, d) ← readTagText "while parsing a tag" c.mark false true d
            let suffix := String.ofList name ++ more
            return if suffix == "" then ("", "!", d) else ("!", suffix, d)
      | _ => return (handle, "", d)

/-- Read a tag that begins at `c`; it ends with its word, or before a comma
inside brackets. -/
def readTag (inFlow : Bool) (c : Cursor) : Except Fault (String × String × Cursor) := do
  let (handle, suffix, d) ← readTagParts c
  if endsWord d.rest || (inFlow && d.at? ',') then
    return (handle, suffix, d)
  else
    breach "while scanning a tag" c.mark "did not find expected whitespace or line break" d.mark

/-! ## §3. Directives. -/

/-- Read a number of at most nine digits. -/
def readVersionNumber (start : Mark) (c : Cursor) : Except Fault (Nat × Cursor) :=
  let (digits, d) := c.takeRun Char.isDigit
  if 9 < digits.length then
    breach "while scanning a %YAML directive" start "found extremely long version number"
      (c.skip 9).mark
  else if digits.isEmpty then
    breach "while scanning a %YAML directive" start "did not find expected version number" d.mark
  else .ok (digits.foldl (fun n x => n * 10 + (x.toNat - 48)) 0, d)

/-- Read the numbers of a version directive. -/
def readVersion (start : Mark) (c : Cursor) : Except Fault (Token × Cursor) := do
  let (major, d) ← readVersionNumber start c.skipSpaces
  if d.at? '.' then
    let (minor, d) ← readVersionNumber start (d.skip 1)
    return (.versionDirective major minor, d)
  else
    breach "while scanning a %YAML directive" start
      "did not find expected digit or '.' character" d.mark

/-- Read the handle and the expansion of a tag directive. -/
def readTagDirective (start : Mark) (c : Cursor) : Except Fault (Token × Cursor) := do
  let (handle, d) ← readTagHandle true start c.skipSpaces
  if !(d.rest.head?.any isSpace) then
    breach "while scanning a %TAG directive" start "did not find expected whitespace" d.mark
  else
    let (expansion, d) ←
      readTagText "while parsing a %TAG directive" start true false d.skipSpaces
    if endsWord d.rest then
      return (.tagDirective handle expansion, d)
    else
      breach "while scanning a %TAG directive" start
        "did not find expected whitespace or line break" d.mark

/-- Read what a directive says, after its name. -/
def readDirectiveBody (start : Mark) (name : String) (c : Cursor) :
    Except Fault (Token × Cursor) :=
  match name with
  | "YAML" => readVersion start c
  | "TAG" => readTagDirective start c
  | _ => breach "while scanning a directive" start "found unknown directive name" c.mark

/-- Read a directive that begins at `c`, up to the end of its line: the token
with the mark at which it stops, and the cursor after the line. -/
def readDirective (c : Cursor) : Except Fault (Token × Mark × Cursor) := do
  let (name, d) := (c.skip 1).takeRun isNameChar
  if name.isEmpty then
    breach "while scanning a directive" c.mark "could not find expected directive name" d.mark
  else if !endsWord d.rest then
    breach "while scanning a directive" c.mark "found unexpected non-alphabetical character" d.mark
  else
    let (token, d) ← readDirectiveBody c.mark (String.ofList name) d
    let e := d.skipSpaces.skipComment
    if endsLine e.rest then
      return (token, d.mark, e.skipBreak)
    else
      breach "while scanning a directive" c.mark
        "did not find expected comment or line break" e.mark

end Provision.Yaml
