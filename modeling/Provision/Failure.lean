/-
  Provision.Failure
  ─────────────────
  **WHY A RUN ENDS EARLY.**

  Every failure ends the run.  A failure is a cause; its wording, its exit
  code and the line that describes it to a developer are functions of the
  cause.

  Main results:

    `exitCode_ne_zero`     no failure leaves with exit code 0
    `exitCode_command`     a tool's code between 1 and 255 is passed on
-/
import Provision.Path
import Provision.Text.Quoted

namespace Provision

open Provision.Text

/-! ## §1. Causes. -/

/-- What can go wrong with a file or directory. -/
inductive FileFault where
  /-- Nothing exists under the name. -/
  | noEntry
  /-- A directory stands where a file is expected. -/
  | isDirectory
  /-- A file stands where a directory is expected. -/
  | notDirectory
  /-- The bytes are no UTF-8 text. -/
  | notUtf8
  /-- The empty path was to be made absolute. -/
  | emptyPath
  /-- A fault that is known by its text only. -/
  | other (text : String)
  /-- A fault at a known place. -/
  | atPath (fault : FileFault) (path : Path)
  deriving DecidableEq, Repr, Inhabited

/-- The causes that end a run. -/
inductive Failure where
  /-- The accelerator has no build on the operating system. -/
  | unsupportedCombination (text : String)
  /-- Something has to be installed by hand first. -/
  | missingPrerequisite (requirement text : String)
  /-- A tool could not be started (no code), was killed (no code) or exited
  with a code other than 0. -/
  | commandFailed (line : String) (code : Option Int)
  /-- A download did not succeed. -/
  | downloadFailed (url text : String)
  /-- The settings file that was asked for does not exist. -/
  | settingsNotFound (path : Path)
  /-- A settings file does not hold settings. -/
  | settingsUnreadable (path : Path) (text : String)
  /-- A file or directory could not be used. -/
  | io (fault : FileFault)
  /-- Any other failure, told by its contexts from the outermost inwards. -/
  | other (context : String) (causes : List String)
  deriving DecidableEq, Repr, Inhabited

/-! ## §2. Wording. -/

/-- The text of a fault. -/
def FileFault.message : FileFault → String
  | .noEntry => "No such file or directory (os error 2)"
  | .isDirectory => "Is a directory (os error 21)"
  | .notDirectory => "Not a directory (os error 20)"
  | .notUtf8 => "stream did not contain valid UTF-8"
  | .emptyPath => "cannot make an empty path absolute"
  | .other text => text
  | .atPath fault path => fault.message ++ " at path " ++ Quoted.encodePath path.text

/-- An exit code as it is shown; a missing one is `None`. -/
def shownCode : Option Int → String
  | none => "None"
  | some n => "Some(" ++ toString n ++ ")"

/-- The text of a failure. -/
def Failure.message : Failure → String
  | .unsupportedCombination text => text
  | .missingPrerequisite requirement text =>
      "Missing prerequisite '" ++ requirement ++ "': " ++ text
  | .commandFailed line code =>
      "Command failed with exit code " ++ shownCode code ++ ": " ++ line
  | .downloadFailed url text => "Failed to download " ++ url ++ ": " ++ text
  | .settingsNotFound path => "Configuration not found: " ++ path.text
  | .settingsUnreadable path text =>
      "Failed to parse config at " ++ path.text ++ ": " ++ text
  | .io fault => "IO error: " ++ fault.message
  | .other context _ => context

/-! ## §3. Exit codes. -/

/-- The exit code of a run that ends in a failure: a tool's own code where it
is between 1 and 255, and 1 otherwise. -/
def Failure.exitCode : Failure → Nat
  | .commandFailed _ (some n) => if 1 ≤ n ∧ n ≤ 255 then n.toNat else 1
  | _ => 1

/-- The exit code of a run. -/
def exitCodeOf {α : Type} : Except Failure α → Nat
  | .ok _ => 0
  | .error f => f.exitCode

/-- **The exit code of a failed command is passed on**, if a process can exit
with it. -/
theorem Failure.exitCode_command {line : String} {n : Int} (h : 1 ≤ n ∧ n ≤ 255) :
    (Failure.commandFailed line (some n)).exitCode = n.toNat := by
  simp [Failure.exitCode, h]

/-- No failure looks like a success. -/
theorem Failure.exitCode_ne_zero (f : Failure) : f.exitCode ≠ 0 := by
  unfold Failure.exitCode
  split
  · split
    · omega
    · decide
  · decide

/-! ## §4. The developer's line. -/

/-- One field of a record. -/
def shownField (name value : String) : String := name ++ ": " ++ value

/-- A record with its fields. -/
def shownRecord (name : String) (fields : List String) : String :=
  name ++ " \x7b " ++ String.intercalate ", " fields ++ " \x7d"

/-- The developer's text of a fault. -/
def FileFault.debug : FileFault → String
  | .noEntry =>
      "Os " ++ "\x7b code: 2, kind: NotFound, message: \"No such file or directory\" \x7d"
  | .isDirectory =>
      "Os " ++ "\x7b code: 21, kind: IsADirectory, message: \"Is a directory\" \x7d"
  | .notDirectory =>
      "Os " ++ "\x7b code: 20, kind: NotADirectory, message: \"Not a directory\" \x7d"
  | .notUtf8 =>
      shownRecord "Error" ["kind: InvalidData", "message: \"stream did not contain valid UTF-8\""]
  | .emptyPath =>
      shownRecord "Error" ["kind: InvalidInput", "message: \"cannot make an empty path absolute\""]
  | .other text => shownRecord "Custom" ["kind: Other", shownField "error" (Quoted.encode text)]
  | .atPath fault path =>
      shownRecord "Custom" ["kind: NotFound", shownField "error"
        (shownRecord "PathError" [shownField "path" (Quoted.encodePath path.text),
          shownField "err" fault.debug])]

/-- The first line of a text. -/
def firstLine (text : String) : String :=
  String.ofList (text.toList.takeWhile (· != '\n'))

/-- The first line of the developer's text of a failure. -/
def Failure.debugLine (f : Failure) : String :=
  firstLine (match f with
    | .unsupportedCombination text =>
        shownRecord "UnsupportedPlatformCombination" [shownField "message" (Quoted.encode text)]
    | .missingPrerequisite requirement text =>
        shownRecord "MissingPrerequisite"
          [shownField "requirement" (Quoted.encode requirement),
            shownField "message" (Quoted.encode text)]
    | .commandFailed line code =>
        shownRecord "CommandFailed"
          [shownField "command" (Quoted.encode line), shownField "code" (shownCode code)]
    | .downloadFailed url text =>
        shownRecord "DownloadFailed"
          [shownField "url" (Quoted.encode url), shownField "message" (Quoted.encode text)]
    | .settingsNotFound path =>
        shownRecord "ConfigNotFound" [shownField "path" (Quoted.encodePath path.text)]
    | .settingsUnreadable path text =>
        shownRecord "ConfigParseError"
          [shownField "path" (Quoted.encodePath path.text),
            shownField "message" (Quoted.encode text)]
    | .io fault => "Io(" ++ fault.debug ++ ")"
    | .other context _ => "Other(" ++ context ++ "\n")

end Provision
