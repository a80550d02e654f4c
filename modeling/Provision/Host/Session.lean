/-
  Provision.Host.Session
  ──────────────────────
  **THE PROGRAM ON A MACHINE.**

  A session reads the command line and starts a run, or prints the text that
  answers the command line instead.  How the run prints and what it logs is
  decided here, from the arguments and the environment.
-/
import Provision.CommandLine.Help
import Provision.CommandLine.Reading
import Provision.Host.Machine
import Provision.Run

namespace Provision

open Provision.CommandLine

namespace Session

/-- How a run prints, on streams that are no terminals. -/
def output (w : Surroundings) (a : Arguments) : Output where
  mode := a.outputMode
  theme := .detect (w.noColor a) false

/-- How a run writes its log. -/
def log (w : Surroundings) (a : Arguments) : LogWriter where
  filter := .ofRun a.debug (w.valueOf "RUST_LOG")
  colored := LogWriter.usesColors (w.noColor a)

/-- The line that answers a command line that starts no run: what was asked
for on standard output, a breach of the rules on standard error. -/
def answer (w : Surroundings) (r : Refusal) : Printed :=
  ⟨match r with
    | .fault _ => .stderr
    | _ => .stdout, r.text w.valueOf⟩

/-- The exit code of a session on a machine, and the state that it leaves. -/
def start (m : Machine) (w : Surroundings) (words : List String) (s : MachineState) :
    Nat × MachineState :=
  match CommandLine.read w.valueOf words with
  | .error r => (r.exitCode, s.print (answer w r))
  | .ok a =>
      let m := { m with output := output w a, log := log w a }
      let (code, s) := (Run.program w a).perform (Run.layer a m.host) s
      (code.toOption.getD 1, s)

end Session

end Provision
