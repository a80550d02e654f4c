/-
  Provision.Output.Notice
  ───────────────────────
  **WHAT A RUN TELLS ITS USER.**

  The steps of a run tell notices, whatever the verbosity is.  The output
  mode decides afterwards which notices are printed and on which stream, so
  that verbosity can only filter and never change what is done.

  Main results:

    `render_quiet`      a line printed in quiet mode is printed in every mode
    `render_normal`     a line printed in normal mode is printed in verbose mode
-/
import Provision.Output.Theme

namespace Provision

/-! ## §1. Modes. -/

/-- How much is printed. -/
inductive OutputMode where
  /-- Every command as well. -/
  | verbose
  /-- Steps and their state. -/
  | normal
  /-- Warnings, errors and planned commands only. -/
  | quiet
  deriving DecidableEq, Repr, Inhabited

namespace OutputMode

/-- Are commands shown before they run? -/
def showsCommands (m : OutputMode) : Bool := m == .verbose

/-- Are steps and their state shown? -/
def showsStatus (m : OutputMode) : Bool := m != .quiet

/-- The name of the mode. -/
def name : OutputMode → String
  | .verbose => "verbose"
  | .normal => "normal"
  | .quiet => "quiet"

end OutputMode

/-! ## §2. Notices. -/

/-- Something that a run tells its user. -/
inductive Notice where
  /-- The title of the run. -/
  | header (text : String)
  /-- The beginning of a step. -/
  | step (text : String)
  /-- A command that is about to run. -/
  | command (line : String)
  /-- A command that would run. -/
  | planned (line : String)
  /-- Something that is done. -/
  | success (text : String)
  /-- Something that was there already. -/
  | skipped (text : String)
  | warning (text : String)
  | failure (text : String)
  /-- The state of a download, which is drawn on a terminal only. -/
  | progress (text : String)
  deriving DecidableEq, Repr, Inhabited

/-! ## §3. Printing. -/

/-- The two streams of a process. -/
inductive OutputStream where
  | stdout
  | stderr
  deriving DecidableEq, Repr, Inhabited

/-- A line that is printed on a stream. -/
structure Printed where
  stream : OutputStream
  line : String
  deriving DecidableEq, Repr, Inhabited

/-- How notices are printed; neither stream is a terminal. -/
structure Output where
  mode : OutputMode := .normal
  theme : Theme := .plain
  /-- Are renditions written at all? -/
  colors : Bool := false
  deriving DecidableEq, Repr, Inhabited

namespace Output

/-- A line on standard output, indented where it belongs to a step. -/
def out (indent : String) (line : String) : Option Printed :=
  some ⟨.stdout, indent ++ line⟩

/-- The line that a notice prints, if it prints one. -/
def render (o : Output) : Notice → Option Printed
  | .header text => if o.mode.showsStatus then out "" (o.theme.formatHeader o.colors text) else none
  | .step text => if o.mode.showsStatus then out "" (o.theme.formatStep o.colors text) else none
  | .command line =>
      if o.mode.showsCommands then out "  " (o.theme.formatCommand o.colors line) else none
  | .planned line => out "  " (o.theme.formatCommand o.colors line)
  | .success text =>
      if o.mode.showsStatus then out "" (o.theme.formatSuccess o.colors text) else none
  | .skipped text =>
      if o.mode.showsStatus then out "  " (o.theme.formatSkipped o.colors text) else none
  | .warning text => some ⟨.stderr, o.theme.formatWarning o.colors text⟩
  | .failure text => some ⟨.stderr, o.theme.formatFailure o.colors text⟩
  | .progress _ => none

/-- The lines that notices print on a stream. -/
def lines (o : Output) (stream : OutputStream) (notices : List Notice) : List String :=
  (notices.filterMap o.render).filterMap fun p =>
    if p.stream = stream then some p.line else none

/-- The text that a notice prints on a stream. -/
def text (o : Output) (stream : OutputStream) (n : Notice) : String :=
  String.join ((o.lines stream [n]).map (· ++ "\n"))

/-- **What the quiet mode shows, every mode shows.** -/
theorem render_quiet (o : Output) (m : OutputMode) {n : Notice} {p : Printed}
    (h : render { o with mode := .quiet } n = some p) : render { o with mode := m } n = some p := by
  cases n <;> simp_all [render, OutputMode.showsStatus, OutputMode.showsCommands]

/-- What the normal mode shows, the verbose mode shows. -/
theorem render_normal (o : Output) {n : Notice} {p : Printed}
    (h : render { o with mode := .normal } n = some p) :
    render { o with mode := .verbose } n = some p := by
  cases n <;> simp_all [render, OutputMode.showsStatus, OutputMode.showsCommands]

end Output

end Provision
