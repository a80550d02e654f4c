/-
  Provision.Log
  ─────────────
  **LOG LINES.**

  A log line has a level, the part of the program it comes from, and a text.
  Log lines are for the developer of a run: no step looks at them, and a
  filter decides afterwards which of them are written.
-/
namespace Provision

/-- How grave a log line is, from the gravest on. -/
inductive LogLevel where
  | error
  | warn
  | info
  | debug
  | trace
  deriving DecidableEq, Repr, Inhabited

namespace LogLevel

/-- The place of a level, the gravest being the first. -/
def rank : LogLevel → Nat
  | .error => 1
  | .warn => 2
  | .info => 3
  | .debug => 4
  | .trace => 5

/-- The name of a level. -/
def name : LogLevel → String
  | .error => "ERROR"
  | .warn => "WARN"
  | .info => "INFO"
  | .debug => "DEBUG"
  | .trace => "TRACE"

end LogLevel

/-- The parts of the program that write log lines. -/
inductive LogSource where
  /-- The program as a whole. -/
  | program
  /-- The wiring of a run. -/
  | commandLine
  /-- Settings files. -/
  | settings
  /-- The sequence of installation steps. -/
  | sequence
  /-- The checks before a step. -/
  | steps
  /-- What every platform shares. -/
  | platform
  | macOS
  | windows
  /-- Running tools. -/
  | command
  /-- Asking tools for their version. -/
  | version
  /-- Downloads. -/
  | download
  deriving DecidableEq, Repr, Inhabited

/-- The name by which a filter knows a part of the program. -/
def LogSource.name : LogSource → String
  | .program => "servedeps"
  | .commandLine => "servedeps::cli"
  | .settings => "servedeps::config::loader"
  | .sequence => "servedeps::installer"
  | .steps => "servedeps::platform::context"
  | .platform => "servedeps::platform"
  | .macOS => "servedeps::platform::macos"
  | .windows => "servedeps::platform::windows"
  | .command => "servedeps::shell::command"
  | .version => "servedeps::shell::version"
  | .download => "servedeps::fetch"

/-- One log line. -/
structure LogEntry where
  level : LogLevel
  source : LogSource
  text : String
  deriving DecidableEq, Repr, Inhabited

end Provision
