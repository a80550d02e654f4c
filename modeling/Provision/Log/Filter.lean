/-
  Provision.Log.Filter
  ────────────────────
  **WHICH LOG LINES ARE WRITTEN.**

  A filter is a list of directives.  A directive lets the lines of one part of
  the program pass from a level on; a directive without a target is for every
  part.  Of the directives whose target begins the name of a part, the longest
  one decides, and of two for the same target the later one.

  Main results:

    `passes_only`       a single directive passes a line iff it is for the part
                        and the level is grave enough
-/
import Provision.Log
import Provision.Text.Blank
import Provision.Text.Search
import Provision.Text.Decimal
import Provision.Text.WordChar

namespace Provision

open Provision.Text

/-! ## §1. Thresholds. -/

/-- How grave a line must be; nothing passes where it is `none`. -/
abbrev LogThreshold := Option LogLevel

namespace LogThreshold

/-- Is a level grave enough? -/
def admits : LogThreshold → LogLevel → Bool
  | none, _ => false
  | some least, level => level.rank ≤ least.rank

/-- The threshold with a number, from nothing to everything. -/
def ofRank? : Nat → Option LogThreshold
  | 0 => some none
  | 1 => some (some .error)
  | 2 => some (some .warn)
  | 3 => some (some .info)
  | 4 => some (some .debug)
  | 5 => some (some .trace)
  | _ => none

/-- The threshold with a name; the case of A to Z makes no difference. -/
def ofName? (text : List Char) : Option LogThreshold :=
  match String.ofList (text.map Char.toLower) with
  | "off" => some none
  | "error" => some (some .error)
  | "warn" => some (some .warn)
  | "info" => some (some .info)
  | "debug" => some (some .debug)
  | "trace" => some (some .trace)
  | _ => none

/-- The threshold that a text gives by its number or its name. -/
def ofText? (text : List Char) : Option LogThreshold :=
  let digits := match text with
    | '+' :: ds => ds
    | ds => ds
  ((readNat? digits).bind ofRank?).or (ofName? text)

end LogThreshold

/-! ## §2. Directives. -/

/-- One directive of a filter. -/
structure LogDirective where
  /-- What the name of a part has to begin with. -/
  target : Option String := none
  threshold : LogThreshold
  /-- Is the directive for lines of a named span only?  No line of this
  program is within one. -/
  spanOnly : Bool := false
  deriving DecidableEq, Repr, Inhabited

namespace LogDirective

/-- Is the directive for a part of the program? -/
def isFor (d : LogDirective) (source : LogSource) : Bool :=
  !d.spanOnly && (match d.target with
    | none => true
    | some t => t.toList.isPrefixOf source.name.toList)

/-- How closely a directive describes a part. -/
def closeness (d : LogDirective) : Nat :=
  match d.target with
  | none => 0
  | some t => t.toList.length + 1

/-- Can a directive begin with the character? -/
def canBegin (c : Char) : Bool :=
  c == '-' || c == ':' || c == '_' || c == '[' || isWordChar c

/-- The threshold after an equals sign; none given means everything. -/
def thresholdAfter? : List Char → Option LogThreshold
  | [] => some (some .trace)
  | text => LogThreshold.ofText? text

/-- The directive after the closing bracket of a span. -/
def afterSpan? (target : Option String) : List Char → Option LogDirective
  | [] => some ⟨target, some .trace, true⟩
  | '=' :: rest => (thresholdAfter? rest).map fun t => ⟨target, t, true⟩
  | _ => none

/-- The directive that a text of its own gives: a threshold, a target, a
target with a threshold, or either with a span in brackets. -/
def ofChars? (text : List Char) : Option LogDirective :=
  let before := text.takeWhile fun c => c != '=' && c != '['
  let target := if before.isEmpty then none else some (String.ofList before)
  match text.drop before.length with
  | [] =>
      match LogThreshold.ofText? text with
      | some t => some ⟨none, t, false⟩
      | none => some ⟨target, some .trace, false⟩
  | '=' :: rest => (thresholdAfter? rest).map fun t => ⟨target, t, false⟩
  | _ :: span =>
      match span.dropWhile (· != ']') with
      | [] => none
      | _ :: rest => afterSpan? target rest

/-- The directive of a text that begins as a directive can. -/
def ofText? (text : String) : Option LogDirective :=
  match (trim text.toList).head? with
  | none => none
  | some c => if canBegin c then ofChars? text.toList else none

end LogDirective

/-! ## §3. Filters. -/

/-- The directives by which lines are filtered. -/
structure LogFilter where
  directives : List LogDirective
  deriving DecidableEq, Repr, Inhabited

namespace LogFilter

/-- The filter with one directive for a target. -/
def only (target : String) (threshold : LogThreshold) : LogFilter :=
  ⟨[⟨some target, threshold, false⟩]⟩

/-- The directive that decides between the best so far and the next one. -/
def closer (best : Option LogDirective) (d : LogDirective) : Option LogDirective :=
  match best with
  | none => some d
  | some b => if b.closeness ≤ d.closeness then some d else some b

/-- The directive that decides about the lines of a part. -/
def deciding? (f : LogFilter) (source : LogSource) : Option LogDirective :=
  (f.directives.filter (·.isFor source)).foldl closer none

/-- Is a line written? -/
def passes (f : LogFilter) (e : LogEntry) : Bool :=
  match f.deciding? e.source with
  | none => false
  | some d => d.threshold.admits e.level

/-- The filter of a text: directives between commas, the empty ones left out.
A text without directives lets errors pass; a directive that cannot be read
spoils the text. -/
def ofText? (text : String) : Option LogFilter := do
  let directives ←
    ((pieces ',' text).filter (· != "")).mapM LogDirective.ofText?
  return ⟨if directives.isEmpty then [⟨none, some .error, false⟩] else directives⟩

/-- A filter for one target passes the entries below that target, from its
threshold on. -/
theorem passes_only (target : String) (threshold : LogThreshold) (e : LogEntry) :
    (only target threshold).passes e =
      (target.toList.isPrefixOf e.source.name.toList && threshold.admits e.level) := by
  cases h : target.toList.isPrefixOf e.source.name.toList <;>
    simp [only, passes, deciding?, closer, LogDirective.isFor, h]

/-! ## §4. The filter of a run. -/

/-- The name under which every part of the program is known. -/
def programName : String := LogSource.program.name

/-- The filter of a run: everything but the finest lines where debugging is
asked for, else what the environment asks for if that can be read, else the
ordinary lines. -/
def ofRun (debugging : Bool) (requested : Option String) : LogFilter :=
  if debugging then only programName (some .debug)
  else (requested.bind ofText?).getD (only programName (some .info))

end LogFilter

end Provision
