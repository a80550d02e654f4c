/-
  Provision.Yaml.Mark
  ───────────────────
  **PLACES IN A DOCUMENT AND WHAT CAN BE WRONG AT THEM.**

  A mark is a place in a text: how many characters are before it, and its
  line and column, all counted from zero.  A fault is what keeps a text from
  being read: a character that no document may hold, a breach of the grammar,
  an alias without an anchor, a second document, or a value of a type that is
  not asked for.
-/
namespace Provision.Yaml

/-! ## §1. Marks. -/

/-- A place in a text. -/
structure Mark where
  index : Nat := 0
  line : Nat := 0
  column : Nat := 0
  deriving DecidableEq, Repr, Inhabited

namespace Mark

/-- The place after `n` characters of the same line. -/
def advance (m : Mark) (n : Nat) : Mark := { m with index := m.index + n, column := m.column + n }

/-- The place after a line break of `n` characters. -/
def newLine (m : Mark) (n : Nat) : Mark := ⟨m.index + n, m.line + 1, 0⟩

/-- Is the mark at the beginning of the text? -/
def atStart (m : Mark) : Bool := m.line == 0 && m.column == 0

/-- The text of a mark, counted from one. -/
def text (m : Mark) : String :=
  if m.atStart then "position " ++ toString m.index
  else "line " ++ toString (m.line + 1) ++ " column " ++ toString (m.column + 1)

end Mark

/-- A value with the mark at which it starts and the one at which it stops. -/
structure Located (α : Type) where
  value : α
  start : Mark
  stop : Mark
  deriving DecidableEq, Repr, Inhabited

/-! ## §2. Faults. -/

/-- What was being read when a breach of the grammar was met, and from where. -/
structure Setting where
  activity : String
  start : Mark
  deriving DecidableEq, Repr, Inhabited

/-- Why a text cannot be read. -/
inductive Fault where
  /-- A character that no document may hold, after so many bytes. -/
  | forbiddenCharacter (offset : Nat)
  /-- A breach of the grammar. -/
  | grammar (problem : String) (mark : Mark) (setting : Option Setting)
  /-- An alias of a node that has no anchor. -/
  | unknownAnchor (mark : Mark)
  /-- A document after the first one. -/
  | severalDocuments
  /-- The text ends where a value is asked for. -/
  | noValue
  /-- A value that is not the one asked for, with the way to it. -/
  | mismatch (text : String) (trail : String) (mark : Mark)
  deriving DecidableEq, Repr, Inhabited

namespace Fault

/-- A text followed by the mark, unless that is the beginning. -/
def located (text : String) (m : Mark) : String :=
  if m.atStart then text else text ++ " at " ++ m.text

/-- The text of a fault. -/
def message : Fault → String
  | .forbiddenCharacter offset =>
      let text := "control characters are not allowed"
      if offset == 0 then text else text ++ " at position " ++ toString offset
  | .grammar problem mark setting =>
      let text := located problem mark
      match setting with
      | none => text
      | some s =>
          let elsewhere := s.start.line != mark.line || s.start.column != mark.column
          text ++ ", " ++ (if elsewhere then located s.activity s.start else s.activity)
  | .unknownAnchor mark => located "unknown anchor" mark
  | .severalDocuments =>
      "deserializing from YAML containing more than one document is not supported"
  | .noValue => "EOF while parsing a value"
  | .mismatch text trail mark =>
      located (if trail == "" then text else trail ++ ": " ++ text) mark

end Fault

/-- A breach of the grammar while something was being read. -/
def breach {α : Type} (activity : String) (start : Mark) (problem : String) (mark : Mark) :
    Except Fault α :=
  .error (.grammar problem mark (some ⟨activity, start⟩))

end Provision.Yaml
