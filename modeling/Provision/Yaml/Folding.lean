/-
  Provision.Yaml.Folding
  ──────────────────────
  **BLANKS AND LINE BREAKS INSIDE A SCALAR.**

  Between two words of a quoted or plain scalar stand blanks or line breaks.
  Blanks on one line stay; a single line break becomes a blank; of several
  line breaks the first is dropped and the others stay; blanks around line
  breaks are dropped.
-/
import Provision.Yaml.Cursor

namespace Provision.Yaml

/-- What stands between two words of a scalar. -/
inductive Gap where
  | none
  /-- Blanks and tabs of one line, the last one first. -/
  | blanks (reversed : List Char)
  /-- Line breaks: the first one, unless it was escaped, and the others, the
  last one first. -/
  | breaks (first : Option Char) (others : List Char)
  deriving DecidableEq, Repr, Inhabited

namespace Gap

/-- The gap with one more blank or tab. -/
def pushBlank (c : Char) : Gap → Gap
  | .none => .blanks [c]
  | .blanks cs => .blanks (c :: cs)
  | .breaks f cs => .breaks f cs

/-- The gap with one more line break. -/
def pushBreak (c : Char) : Gap → Gap
  | .breaks f cs => .breaks f (c :: cs)
  | _ => .breaks (some c) []

/-- Is there a line break in the gap? -/
def hasBreak : Gap → Bool
  | .breaks .. => true
  | _ => false

/-- The gap as part of the value, the last character first. -/
def folded : Gap → List Char
  | .none => []
  | .blanks cs => cs
  | .breaks (some '\n') [] => [' ']
  | .breaks (some '\n') cs => cs
  | .breaks (some c) cs => cs ++ [c]
  | .breaks .none cs => cs

end Gap

end Provision.Yaml
