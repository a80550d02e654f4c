/-
  Provision.Procedure
  ───────────────────
  **STEPS AS DATA.**

  A procedure is a finite tree of requests to a host: run this command, fetch
  this address, is this tool on the search path, tell the user this.  Each
  request has its own type of answer and the procedure goes on with the
  answer, or ends with a result or a failure.  Nothing happens until a host
  answers; the same procedure is carried out on a machine, shown in a dry run
  or recorded.

  Main results:

    `perform_bind`       performing a sequence performs one part after the other
    `perform_withCleanUp`    clean-up is performed after a result and after a failure
    `perform_attempt`    an attempt never fails
-/
import Provision.Command
import Provision.Log
import Provision.Output.Notice

namespace Provision

/-! ## §1. Requests and their answers. -/

/-- What a procedure can ask its host for. -/
inductive Request where
  /-- Run a command; a failing command is a failure. -/
  | run (command : Command)
  /-- Run a command and capture its output; only a command that cannot be
  started is a failure. -/
  | capture (command : Command)
  /-- Download what is at an address. -/
  | fetch (url : String)
  /-- Look for a tool on the search path. -/
  | locate (tool : String)
  /-- Create a file of a new name between `before` and `after`, holding `content`;
  a file that cannot be filled is a failure as well, and nothing of it is left. -/
  | createFile (parent : Path) (before after : String) (content : ByteArray)
  /-- Create a directory of a new name that begins with `before`. -/
  | createDirectory (parent : Path) (before : String)
  /-- Remove a file, or a directory with all that is below it. -/
  | discard (path : Path)
  /-- Does something exist under the name? -/
  | doesExist (path : Path)
  /-- Read a file. -/
  | read (path : Path)
  /-- Tell the user something. -/
  | tell (notice : Notice)
  /-- Write a log line. -/
  | log (entry : LogEntry)

/-- The answers to a request. -/
abbrev Request.Answer : Request → Type
  | .run _ => Except Failure Unit
  | .capture _ => Except Failure Captured
  | .fetch _ => Except Failure ByteArray
  | .locate _ => Option Path
  | .createFile .. => Except Failure Path
  | .createDirectory .. => Except Failure Path
  | .discard _ => Unit
  | .doesExist _ => Bool
  | .read _ => Except Failure ByteArray
  | .tell _ => Unit
  | .log _ => Unit

/-! ## §2. Procedures. -/

/-- A result, a failure, or a request with what follows each answer. -/
inductive Procedure (α : Type) where
  | done (result : α)
  | fail (failure : Failure)
  | ask (request : Request) (next : request.Answer → Procedure α)

namespace Procedure

variable {α β : Type}

/-- One procedure after another; a failure ends both. -/
def bind (p : Procedure α) (f : α → Procedure β) : Procedure β :=
  match p with
  | .done a => f a
  | .fail e => .fail e
  | .ask r k => .ask r fun x => (k x).bind f

instance : Monad Procedure where
  pure := .done
  bind := bind

/-- Go on with a result, end with a failure. -/
def ofExcept : Except Failure α → Procedure α
  | .ok a => .done a
  | .error e => .fail e

/-- Perform `cleanUp` after `p`, whatever `p` ends with. -/
def withCleanUp (p : Procedure α) (cleanUp : Procedure Unit) : Procedure α :=
  match p with
  | .done a => cleanUp.bind fun _ => .done a
  | .fail e => cleanUp.bind fun _ => .fail e
  | .ask r k => .ask r fun x => (k x).withCleanUp cleanUp

/-- Go on with how `p` ends, be it a result or a failure. -/
def attempt : Procedure α → Procedure (Except Failure α)
  | .done a => .done (.ok a)
  | .fail e => .done (.error e)
  | .ask r k => .ask r fun x => (k x).attempt

/-! ## §3. The single requests. -/

/-- Run a command. -/
def run (c : Command) : Procedure Unit := .ask (.run c) ofExcept

/-- Run a command and go on with what it left, also if it cannot be started. -/
def capture (c : Command) : Procedure (Except Failure Captured) := .ask (.capture c) .done

/-- Look for a tool on the search path. -/
def locate (tool : String) : Procedure (Option Path) := .ask (.locate tool) .done

/-- Download what is at an address, and go on also where that fails. -/
def fetch (url : String) : Procedure (Except Failure ByteArray) := .ask (.fetch url) .done

/-- Remove what is at a path. -/
def discard (path : Path) : Procedure Unit := .ask (.discard path) .done

/-- Does something exist under the name? -/
def doesExist (path : Path) : Procedure Bool := .ask (.doesExist path) .done

/-- Read a file. -/
def read (path : Path) : Procedure ByteArray := .ask (.read path) ofExcept

/-- Tell the user something. -/
def tell (n : Notice) : Procedure Unit := .ask (.tell n) .done

/-- Announce a step. -/
def step (text : String) : Procedure Unit := tell (.step text)

/-- Write a log line. -/
def log (level : LogLevel) (source : LogSource) (text : String) : Procedure Unit :=
  .ask (.log ⟨level, source, text⟩) .done

/-- Go on with a new file while `body` runs, and remove it after that. -/
def withFile (parent : Path) (before after : String) (content : ByteArray)
    (body : Path → Procedure α) : Procedure α :=
  .ask (.createFile parent before after content) fun r =>
    (ofExcept r).bind fun path => (body path).withCleanUp (discard path)

/-- Go on with a new directory while `body` runs, and remove it after that
with all that is below it. -/
def withDirectory (parent : Path) (before : String) (body : Path → Procedure α) :
    Procedure α :=
  .ask (.createDirectory parent before) fun r =>
    (ofExcept r).bind fun path => (body path).withCleanUp (discard path)

end Procedure

/-! ## §4. Hosts. -/

/-- A host answers every request and may change its state while it does so. -/
def Host (σ : Type) := (r : Request) → σ → r.Answer × σ

/-- Perform a procedure on a host, from a state on. -/
def Procedure.perform {σ α : Type} (host : Host σ) : Procedure α → σ → Except Failure α × σ
  | .done a, s => (.ok a, s)
  | .fail e, s => (.error e, s)
  | .ask r k, s => (k (host r s).1).perform host (host r s).2

namespace Procedure

variable {σ α β : Type}

/-- A sequence is performed part by part; a failure of the first part skips the
second. -/
theorem perform_bind (host : Host σ) (p : Procedure α) (f : α → Procedure β) (s : σ) :
    (p.bind f).perform host s =
      match p.perform host s with
      | (.ok a, t) => (f a).perform host t
      | (.error e, t) => (.error e, t) := by
  induction p generalizing s with
  | done a => rfl
  | fail e => rfl
  | ask r k ih => exact ih _ _

/-- **Clean-up is performed after a result and after a failure**; a failure of its
own takes the place of either. -/
theorem perform_withCleanUp (host : Host σ) (p : Procedure α) (cleanUp : Procedure Unit) (s : σ) :
    (p.withCleanUp cleanUp).perform host s =
      match p.perform host s with
      | (r, t) =>
        match cleanUp.perform host t with
        | (.ok _, u) => (r, u)
        | (.error e, u) => (.error e, u) := by
  induction p generalizing s with
  | done a => simp only [withCleanUp, perform_bind, perform]; split <;> simp_all
  | fail e => simp only [withCleanUp, perform_bind, perform]; split <;> simp_all
  | ask r k ih => exact ih _ _

/-- To attempt something is to perform it and to keep its failure as a result. -/
theorem perform_attempt (host : Host σ) (p : Procedure α) (s : σ) :
    p.attempt.perform host s = (.ok (p.perform host s).1, (p.perform host s).2) := by
  induction p generalizing s with
  | done a => rfl
  | fail e => rfl
  | ask r k ih => exact ih _ _

end Procedure

/-! ## §5. Layers over a host. -/

/-- The host that announces downloads and brings nothing. -/
def withoutNetwork {σ : Type} (host : Host σ) : Host σ
  | .fetch url, s =>
      (.ok ByteArray.empty, (host (.log ⟨.info, .download, "Would download " ++ url⟩) s).2)
  | r, s => host r s

/-- The host that shows commands instead of running them; captured commands
change nothing and go through. -/
def planning {σ : Type} (host : Host σ) : Host σ
  | .run c, s => (.ok (), (host (.tell (.planned c.line)) s).2)
  | r, s => host r s

/-- The host that only shows what it would do. -/
def rehearsing {σ : Type} (host : Host σ) : Host σ := planning (withoutNetwork host)

/-- The host that announces every command before it runs. -/
def announcing {σ : Type} (host : Host σ) : Host σ
  | .run c, s => host (.run c) (host (.tell (.command c.line)) s).2
  | r, s => host r s

end Provision
