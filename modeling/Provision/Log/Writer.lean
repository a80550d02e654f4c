/-
  Provision.Log.Writer
  ────────────────────
  **HOW LOG LINES ARE WRITTEN.**

  A line that passes the filter is written with its level in front, in the
  colour of the level or plain.  Characters by which a text could take
  control of a terminal are written as escapes, so that a log line can never
  do more than be read.

  Main results:

    `harmless_plain`    a text without such characters is written as it is
-/
import Provision.Log.Filter
import Provision.Text.Quoted

namespace Provision

open Provision.Text

/-! ## §1. The text of a line. -/

namespace LogEntry

/-- Can the character control a terminal? -/
def isControl (c : Char) : Bool :=
  ['\x1b', '\x07', '\x08', '\x0c', '\x7f'].contains c
    || (0x80 ≤ c.toNat && c.toNat ≤ 0x9F)

/-- A character that can control a terminal, written as an escape. -/
def escaped (c : Char) : List Char :=
  if 0x80 ≤ c.toNat then Quoted.codePoint c
  else
    let digits := Quoted.hexDigits c.toNat
    ['\\', 'x'] ++ (if digits.length < 2 then '0' :: digits else digits)

/-- The text without characters that can control a terminal. -/
def harmless (text : List Char) : List Char :=
  text.flatMap fun c => if isControl c then escaped c else [c]

/-- A text without control characters is written as it is. -/
theorem harmless_plain {text : List Char} (h : ∀ c ∈ text, isControl c = false) :
    harmless text = text := by
  induction text with
  | nil => rfl
  | cons c cs ih =>
    have hc : isControl c = false := h c (by simp)
    have := ih fun d hd => h d (by simp [hd])
    simp only [harmless] at this
    simp [harmless, hc, this]

end LogEntry

/-- The rendition of a level, by its number. -/
def LogLevel.rendition : LogLevel → String
  | .error => "31"
  | .warn => "33"
  | .info => "32"
  | .debug => "34"
  | .trace => "35"

/-- The name of a level, the shorter ones with a blank in front. -/
def LogLevel.padded (l : LogLevel) : String :=
  if l.name.length < 5 then " " ++ l.name else l.name

/-! ## §2. Writers. -/

/-- How the log lines of a run are written. -/
structure LogWriter where
  filter : LogFilter
  /-- Is the level coloured? -/
  colored : Bool := false
  deriving Inhabited

namespace LogWriter

/-- Are levels coloured?  Not where the environment asks for no colours. -/
def usesColors (noColor : Option String) : Bool :=
  match noColor with
  | none => true
  | some text => text == ""

/-- The line of an entry, without the time in front of it. -/
def line (w : LogWriter) (e : LogEntry) : String :=
  (if w.colored then
    "\x1b[" ++ e.level.rendition ++ "m" ++ e.level.padded ++ "\x1b[0m"
  else e.level.name)
    ++ " " ++ String.ofList (LogEntry.harmless e.text.toList)

/-- The line of an entry, if it is written. -/
def line? (w : LogWriter) (e : LogEntry) : Option String :=
  if w.filter.passes e then some (w.line e) else none

end LogWriter

end Provision
