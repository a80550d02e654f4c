/-
  Provision.Output.Theme
  ──────────────────────
  **HOW LINES ARE MARKED AND COLOURED.**

  Every kind of line has a mark (a check, a warning sign, …) and a style.  A
  style is a list of graphic renditions; the plain theme has none, and no
  rendition is written where the terminal shows no colours.

  Main results:

    `paint_plain`       without renditions a text is written as it is
    `paint_switched_off`  and so is any text where colours are off
-/
namespace Provision

/-! ## §1. Styles. -/

/-- The graphic renditions that are switched on before a text. -/
abbrev Style := List String

/-- The escape sequence of a graphic rendition. -/
def rendition (code : String) : String := "\x1b[" ++ code ++ "m"

/-- The text in a style: every rendition before it and a reset after it. -/
def paint (colors : Bool) (style : Style) (text : String) : String :=
  if !colors || style.isEmpty then text
  else String.join (style.map rendition) ++ text ++ rendition "0"

/-- An empty style adds nothing. -/
theorem paint_plain (colors : Bool) (text : String) : paint colors [] text = text := by
  simp [paint]

/-- Without colors no style adds anything. -/
theorem paint_switched_off (style : Style) (text : String) : paint false style text = text := by
  simp [paint]

/-! ## §2. Themes. -/

/-- A style for every kind of line. -/
structure Theme where
  success : Style := []
  warning : Style := []
  failure : Style := []
  skipped : Style := []
  step : Style := []
  command : Style := []
  header : Style := []
  deriving DecidableEq, Repr, Inhabited

namespace Theme

/-- The theme without colours. -/
def plain : Theme := {}

/-- The coloured theme: green, orange, bold red, dim, bold, dim italic and
bold magenta. -/
def colored : Theme where
  success := ["32"]
  warning := ["38;5;208"]
  failure := ["31", "1"]
  skipped := ["2"]
  step := ["1"]
  command := ["2", "3"]
  header := ["35", "1"]

/-- Colours are used on a terminal, unless `NO_COLOR` is set to anything. -/
def useColors (noColor : Option String) (terminal : Bool) : Bool :=
  noColor.isNone && terminal

/-- The theme for a standard output that is a terminal or not. -/
def detect (noColor : Option String) (terminal : Bool) : Theme :=
  if useColors noColor terminal then colored else plain

/-! ## §3. Marked lines. -/

/-- A success. -/
def formatSuccess (t : Theme) (colors : Bool) (text : String) : String :=
  paint colors t.success ("✓ " ++ text)

/-- A warning. -/
def formatWarning (t : Theme) (colors : Bool) (text : String) : String :=
  paint colors t.warning ("⚠ " ++ text)

/-- A failure. -/
def formatFailure (t : Theme) (colors : Bool) (text : String) : String :=
  paint colors t.failure ("✗ " ++ text)

/-- Something that is skipped. -/
def formatSkipped (t : Theme) (colors : Bool) (text : String) : String :=
  paint colors t.skipped ("○ " ++ text)

/-- The title of a step. -/
def formatStep (t : Theme) (colors : Bool) (text : String) : String :=
  paint colors t.step ("◆ " ++ text)

/-- A command line. -/
def formatCommand (t : Theme) (colors : Bool) (text : String) : String :=
  paint colors t.command ("$ " ++ text)

/-- A header, which has no mark. -/
def formatHeader (t : Theme) (colors : Bool) (text : String) : String :=
  paint colors t.header text

end Theme

end Provision
