/-
  Provision.Proofs.OtherCommands
  ──────────────────────────────
  **OTHER COMMANDS IN THE SAME PLACES.**

  A procedure in which every command that is run is replaced by another one
  makes the same requests otherwise: what it does next depends on an answer and
  not on what was asked.  So an account of the one, with the commands replaced,
  is an account of the other.

  Main results:

    `Becomes.bind`, `Becomes.withFile`, `Becomes.withDirectory`
                          the commands are replaced part by part
    `becomes_self`        what runs no such command stays as it is
    `leads_mapCommands`   where the new commands are answered as the old ones
                          were, nothing else changes
-/
import Provision.Proofs.Asked

namespace Provision

open Procedure

/-! ## §1. Requests, exchanges and procedures. -/

/-- The request with another command to run; captured commands stay. -/
def Request.mapCommand (f : Command → Command) : Request → Request
  | .run c => .run (f c)
  | r => r

/-- The exchange with another command to run, and the same answer. -/
def Exchange.mapCommand (f : Command → Command) : Exchange → Exchange
  | ⟨.run c, x⟩ => ⟨.run (f c), x⟩
  | e => e

/-- What an exchange asks for, once its command is replaced. -/
theorem request_mapCommand (f : Command → Command) (e : Exchange) :
    (e.mapCommand f).request = e.request.mapCommand f := by
  obtain ⟨q, x⟩ := e
  cases q <;> rfl

/-- The calls to the runner with other commands in their places. -/
theorem runnerCalls_mapCommand (f : Command → Command) (E : Account) :
    Account.runnerCalls (E.map (Exchange.mapCommand f))
      = E.runnerCalls.map (Request.mapCommand f) := by
  induction E with
  | nil => rfl
  | cons e E ih =>
      rw [List.map_cons, Account.runnerCalls_cons, Account.runnerCalls_cons, ih]
      obtain ⟨q, x⟩ := e
      cases q <;> rfl

namespace Procedure

variable {α β : Type} {f : Command → Command}

/-- The procedure with other commands to run; what follows their answers is the
same. -/
def mapCommands (f : Command → Command) : Procedure α → Procedure α
  | .done a => .done a
  | .fail e => .fail e
  | .ask (.run c) k => .ask (.run (f c)) fun x => (k x).mapCommands f
  | .ask r k => .ask r fun x => (k x).mapCommands f

/-! ## §2. Replacing part by part. -/

/-- With other commands `p` becomes `q`. -/
def Becomes (f : Command → Command) (p q : Procedure α) : Prop := p.mapCommands f = q

/-- **The commands of a sequence are replaced in its parts.** -/
theorem Becomes.bind {p q : Procedure α} {g h : α → Procedure β} (hp : p.Becomes f q)
    (hg : ∀ a, (g a).Becomes f (h a)) : (p.bind g).Becomes f (q.bind h) := by
  subst hp
  unfold Becomes
  induction p with
  | done a => exact hg a
  | fail e => rfl
  | ask r k ih =>
      cases r <;> (simp only [Procedure.bind, mapCommands]; congr 1; funext x; exact ih x)

/-- On a condition the replaced step stands for the step. -/
theorem Becomes.when {p q : Procedure Unit} (h : p.Becomes f q) (c : Bool) :
    (when c p).Becomes f (when c q) := by
  cases c with
  | false => rfl
  | true => exact h

/-- What asks for nothing stays as it is. -/
theorem becomes_ofExcept (x : Except Failure α) : (ofExcept x).Becomes f (ofExcept x) := by
  cases x <;> rfl

/-- A run becomes the run of the other command. -/
theorem becomes_run (c : Command) : (run c).Becomes f (run (f c)) := by
  unfold Becomes run
  simp only [mapCommands]
  congr 1
  funext x
  exact becomes_ofExcept x

theorem becomes_tell (n : Notice) : (tell n).Becomes f (tell n) := rfl

theorem becomes_step (text : String) : (step text).Becomes f (step text) := rfl

theorem becomes_log (level : LogLevel) (source : LogSource) (text : String) :
    (log level source text).Becomes f (log level source text) := rfl

/-- A list of commands is replaced member by member. -/
theorem becomes_forM_run (cs : List Command) :
    (cs.forM run).Becomes f ((cs.map f).forM run) := by
  induction cs with
  | nil => rfl
  | cons c cs ih => exact (becomes_run c).bind fun _ => ih

/-- Clean-up runs no command. -/
theorem Becomes.withCleanUp {p q : Procedure α} (h : p.Becomes f q) (path : Path) :
    (p.withCleanUp (discard path)).Becomes f (q.withCleanUp (discard path)) := by
  subst h
  unfold Becomes
  induction p with
  | done a => rfl
  | fail e => rfl
  | ask r k ih =>
      cases r <;> (simp only [Procedure.withCleanUp, mapCommands]; congr 1; funext x; exact ih x)

/-- A temporary file is made for the same content and at the same place,
whatever its body runs. -/
theorem Becomes.withFile {body body' : Path → Procedure α} (parent : Path)
    (before after : String) (content : ByteArray) (h : ∀ path, (body path).Becomes f (body' path)) :
    (withFile parent before after content body).Becomes f
      (withFile parent before after content body') := by
  unfold Becomes Procedure.withFile
  simp only [mapCommands]
  congr 1
  funext x
  exact (becomes_ofExcept x).bind fun path => (h path).withCleanUp path

/-- A temporary directory is made at the same place. -/
theorem Becomes.withDirectory {body body' : Path → Procedure α} (parent : Path)
    (before : String) (h : ∀ path, (body path).Becomes f (body' path)) :
    (withDirectory parent before body).Becomes f (withDirectory parent before body') := by
  unfold Becomes Procedure.withDirectory
  simp only [mapCommands]
  congr 1
  funext x
  exact (becomes_ofExcept x).bind fun path => (h path).withCleanUp path

/-- What runs no command that is replaced stays as it is. -/
theorem becomes_self {p : Procedure α} (h : p.Asks fun r => ∀ c, r = .run c → f c = c) :
    p.Becomes f p := by
  unfold Becomes
  induction p with
  | done a => rfl
  | fail e => rfl
  | ask r k ih =>
      obtain ⟨hr, hk⟩ := asks_iff_next.mp h
      have hnext : (fun x => (k x).mapCommands f) = k := funext fun x => ih x (hk x)
      cases r with
      | run c =>
          simp only [mapCommands, hnext]
          rw [hr c rfl]
      | _ => simp only [mapCommands, hnext]

/-! ## §3. Accounts. -/

/-- **Where the new commands are answered as the old ones were, nothing else
changes.** -/
theorem leads_mapCommands {p : Procedure α} {E : Account} {r : Except Failure α}
    (h : p.Leads E r) : (p.mapCommands f).Leads (E.map (Exchange.mapCommand f)) r := by
  -- Along the way through the tree: the answers are the same, so the way is.
  induction h with
  | done a => exact .done a
  | fail e => exact .fail e
  | @ask q k x E r h ih =>
      cases q <;> exact .ask ih

end Procedure

end Provision
