/-
  Provision.Prerequisite
  ──────────────────────
  **THE TOOLS A RUN MAKES SURE OF.**

  A prerequisite is known by the program that it puts on the search path.
-/
namespace Provision

/-- The tools a run makes sure of. -/
inductive Prerequisite where
  /-- Fetches the sources of the native library. -/
  | downloadUtility
  /-- Runs the test tooling. -/
  | jsRuntime
  /-- Builds the server's frontend. -/
  | javaCompiler
  deriving DecidableEq, Repr, Inhabited

/-- The program that is looked for on the search path. -/
def Prerequisite.binary : Prerequisite → String
  | .downloadUtility => "wget"
  | .jsRuntime => "node"
  | .javaCompiler => "javac"

end Provision
