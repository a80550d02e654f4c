/-
  Provision.Yaml.QuotedScalar
  ───────────────────────────
  **SCALARS IN QUOTES.**

  Between single quotes a quote is written twice and nothing is escaped.
  Between double quotes a backslash escapes controls, code points, the quote
  and a line break.  Line breaks fold in both.  A document marker or the end
  of the text may not stand inside.
-/
import Provision.Yaml.Folding

namespace Provision.Yaml

/-! ## §1. Escapes. -/

/-- What a letter after a backslash stands for: a character, or as many
hexadecimal digits of a code point. -/
def escapeOf? : Char → Option (Char ⊕ Nat)
  | '0' => some (.inl '\x00')
  | 'a' => some (.inl '\x07')
  | 'b' => some (.inl '\x08')
  | 't' => some (.inl '\t')
  | '\t' => some (.inl '\t')
  | 'n' => some (.inl '\n')
  | 'v' => some (.inl '\x0b')
  | 'f' => some (.inl '\x0c')
  | 'r' => some (.inl '\r')
  | 'e' => some (.inl '\x1b')
  | ' ' => some (.inl ' ')
  | '"' => some (.inl '"')
  | '/' => some (.inl '/')
  | '\\' => some (.inl '\\')
  | 'N' => some (.inl '\x85')
  | '_' => some (.inl '\xA0')
  | 'L' => some (.inl '\u2028')
  | 'P' => some (.inl '\u2029')
  | 'x' => some (.inr 2)
  | 'u' => some (.inr 4)
  | 'U' => some (.inr 8)
  | _ => none

/-- The value of a hexadecimal digit. -/
def hexDigit? (c : Char) : Option Nat :=
  if '0' ≤ c ∧ c ≤ '9' then some (c.toNat - 48)
  else if 'a' ≤ c ∧ c ≤ 'f' then some (c.toNat - 87)
  else if 'A' ≤ c ∧ c ≤ 'F' then some (c.toNat - 55)
  else none

/-! ## §2. Reading. -/

/-- The state inside quotes: the value so far, the last character first, and
what stands since its last word. -/
structure QuotedState where
  value : List Char := []
  gap : Gap := .none
  deriving Inhabited

/-- The value with the gap folded in. -/
def QuotedState.joined (s : QuotedState) : List Char := s.gap.folded ++ s.value

/-- The digits of a code point that are still to come. -/
structure CodePoint where
  left : Nat
  value : Nat
  /-- Where the digits begin. -/
  start : Mark
  deriving Inhabited

/-- What the next character inside quotes is. -/
inductive QuotedMode where
  | text
  /-- The second of two single quotes. -/
  | doubled
  /-- What the backslash at `slash` escapes. -/
  | escape (slash : Mark)
  | digit (d : CodePoint)
  deriving Inhabited

/-- Does a carriage return stand before its line feed? -/
def isReturn (c : Char) (cs : List Char) : Bool := c == '\r' && cs.head? == some '\n'

/-- Read a quoted scalar after its opening quote; `start` is the mark of that
quote. -/
def readQuoted (single : Bool) (start : Mark) :
    QuotedMode → QuotedState → Mark → List Char → Except Fault (String × Cursor)
  | .digit d, _, _, [] =>
      breach "while parsing a quoted scalar" start "did not find expected hexdecimal number" d.start
  | .escape slash, _, _, [] =>
      breach "while parsing a quoted scalar" start "found unknown escape character" slash
  | _, _, m, [] =>
      breach "while scanning a quoted scalar" start "found unexpected end of stream" m
  | .digit d, s, m, c :: cs =>
      match hexDigit? c with
      | none =>
          breach "while parsing a quoted scalar" start "did not find expected hexdecimal number"
            d.start
      | some v =>
          let n := d.value * 16 + v
          if 1 < d.left then
            readQuoted single start (.digit ⟨d.left - 1, n, d.start⟩) s (m.advance 1) cs
          else if n.isValidChar then
            readQuoted single start .text ⟨Char.ofNat n :: s.value, .none⟩ (m.advance 1) cs
          else
            breach "while parsing a quoted scalar" start
              "found invalid Unicode character escape code" d.start
  | .escape slash, s, m, c :: cs =>
      if isReturn c cs then
        readQuoted single start (.escape slash) s { m with index := m.index + 1 } cs
      else if isBreak c then
        readQuoted single start .text ⟨s.joined, .breaks none []⟩ (m.newLine 1) cs
      else
        match escapeOf? c with
        | none =>
            breach "while parsing a quoted scalar" start "found unknown escape character" slash
        | some (.inl x) =>
            readQuoted single start .text ⟨x :: s.joined, .none⟩ (m.advance 1) cs
        | some (.inr n) =>
            readQuoted single start (.digit ⟨n, 0, m.advance 1⟩) ⟨s.joined, .none⟩ (m.advance 1) cs
  | .doubled, s, m, c :: cs =>
      readQuoted single start .text ⟨c :: s.joined, .none⟩ (m.advance 1) cs
  | .text, s, m, c :: cs =>
      if m.column == 0 && atMarker (c :: cs) then
        breach "while scanning a quoted scalar" start "found unexpected document indicator" m
      else if isSpace c then
        readQuoted single start .text { s with gap := s.gap.pushBlank c } (m.advance 1) cs
      else if isReturn c cs then
        readQuoted single start .text s { m with index := m.index + 1 } cs
      else if isBreak c then
        readQuoted single start .text { s with gap := s.gap.pushBreak (breakValue c) }
          (m.newLine 1) cs
      else if single && c == '\'' && cs.head? == some '\'' then
        readQuoted single start .doubled s (m.advance 1) cs
      else if c == (if single then '\'' else '"') then
        .ok (String.ofList s.joined.reverse, ⟨m.advance 1, cs⟩)
      else if !single && c == '\\' then
        readQuoted single start (.escape m) s (m.advance 1) cs
      else readQuoted single start .text ⟨c :: s.joined, .none⟩ (m.advance 1) cs

end Provision.Yaml
