/-
  Provision.Proofs.Printing
  ─────────────────────────
  **WHAT REACHES STANDARD OUTPUT.**

  A machine prints the lines of the notices that it is told, each as its
  output renders it, and nothing else of its own.  So as long as no command
  that is run prints anything, the bytes on standard output are the lines of
  the account, in their order, with a line feed behind each.

  Main results:

    `stdout_host`      of all requests but commands only a notice prints lines
    `stdout_through`   what its requests print is what a procedure prints
-/
import Provision.Proofs.Rehearsal

namespace Provision

open Procedure

/-! ## §1. The lines of an account. -/

/-- The lines that reach standard output. -/
def Account.stdout (o : Output) (E : Account) : List String := o.lines .stdout E.notices

/-- The lines of two accounts, one after the other. -/
@[simp] theorem stdout_append (o : Output) (E F : Account) :
    Account.stdout o (E ++ F) = E.stdout o ++ F.stdout o := by
  simp only [Account.stdout, Output.lines, Account.notices_append, List.filterMap_append]

/-- An account without notices has no lines. -/
theorem stdout_of_notices {o : Output} {E : Account} (h : E.notices = []) : E.stdout o = [] := by
  unfold Account.stdout
  rw [h]
  rfl

/-- The bytes after lines have been written, each with a line feed. -/
def written (before : ByteArray) (lines : List String) : ByteArray :=
  lines.foldl (fun bytes line => bytes ++ Text.Utf8.encode (line ++ "\n")) before

theorem written_append (before : ByteArray) (ls ls' : List String) :
    written before (ls ++ ls') = written (written before ls) ls' := List.foldl_append

/-! ## §2. A machine. -/

section Printing

variable {m : Machine}

/-- Printing adds one line with its line feed to the stream that it is for. -/
theorem stdout_print (s : MachineState) (p : Printed) :
    (s.print p).stdout = written s.stdout (if p.stream = .stdout then [p.line] else []) := by
  unfold MachineState.print
  cases p with
  | mk stream line => cases stream <;> rfl

/-- The log is written to standard error. -/
theorem stdout_note (source : LogSource) (text : String) (s : MachineState) :
    (m.note source text s).stdout = s.stdout := by
  unfold Machine.note
  split
  · exact stdout_print s _
  · rfl

/-- Files and directories are made in silence. -/
theorem stdout_create (s : MachineState) (parent : Path) (before after : String) (e : Entry) :
    (m.create s parent before after e).2.stdout = s.stdout := by
  unfold Machine.create
  split <;> rfl

/-- A download writes to the log only. -/
theorem stdout_fetch (url : String) (s : MachineState) :
    (m.fetch url s).2.stdout = s.stdout := by
  unfold Machine.fetch
  dsimp only
  split
  · exact stdout_note _ _ s
  · rw [stdout_note, stdout_note]

/-- **A notice adds its line**, if the output renders it and renders it for
standard output. -/
theorem stdout_tell (n : Notice) (s : MachineState) :
    (m.host (.tell n) s).2.stdout = written s.stdout (m.output.lines .stdout [n]) := by
  unfold Output.lines
  rw [List.filterMap_cons]
  simp only [Machine.host]
  cases m.output.render n with
  | none => rfl
  | some p =>
      dsimp only
      rw [stdout_print, List.filterMap_cons]
      split <;> rfl

/-- With these files the command prints nothing on its standard output, if it
starts at all. -/
def Machine.Quiet (m : Machine) (fs : FileSystem) (c : Command) : Prop :=
  ∀ o calls, m.process fs c = .ok (o, calls) → o.stdout = ByteArray.empty

/-- A command that prints nothing leaves standard output as it is. -/
theorem stdout_run {c : Command} {s : MachineState} (hquiet : m.Quiet s.files c) :
    (m.run c s).2.stdout = s.stdout := by
  unfold Machine.run
  dsimp only
  split
  · rw [stdout_note, stdout_note]
  · rename_i o calls hprocess
    -- The line in the log before the command changes no file.
    rw [show (m.note .command ("Running: " ++ c.line) s).files = s.files from
      log_files ⟨.debug, .command, "Running: " ++ c.line⟩ s] at hprocess
    rw [stdout_note]
    show (m.note .command _ s).stdout ++ o.stdout = s.stdout
    rw [hquiet _ _ hprocess, ByteArray.append_empty, stdout_note]

/-- Of all requests but commands only a notice prints lines. -/
theorem stdout_host {r : Request} (hrun : ∀ c, r ≠ .run c) (s : MachineState) :
    (m.host r s).2.stdout
      = written s.stdout (Account.stdout m.output [⟨r, (m.host r s).1⟩]) := by
  cases r with
  | run c => exact absurd rfl (hrun c)
  | capture c => exact (m.host_capture_streams c s).1
  | fetch url => exact stdout_fetch url s
  | createFile parent before after content => exact stdout_create s _ _ _ _
  | createDirectory parent before => exact stdout_create s _ _ _ _
  | discard path =>
      simp only [Machine.host]
      split <;> rfl
  | tell n => exact stdout_tell n s
  | log e =>
      simp only [Machine.host]
      split
      · exact stdout_print s _
      · rfl
  | _ => rfl

/-- A rehearsing machine prints the plan of a command in the place of the command. -/
theorem stdout_rehearsing (r : Request) (s : MachineState) :
    (rehearsing m.host r s).2.stdout = written s.stdout
      (Account.stdout m.output (Exchange.rehearsed ⟨r, (rehearsing m.host r s).1⟩)) := by
  -- A command is planned and a download is logged; all else is as on the machine
  -- itself.
  cases r with
  | run c => exact stdout_tell (m := m) (.planned c.line) s
  | fetch url =>
      refine stdout_host (m := m) (r := .log _) ?_ s
      intro c h
      cases h
  | capture c => exact (m.host_capture_streams c s).1
  | createFile parent before after content => exact stdout_create s parent before after _
  | createDirectory parent before => exact stdout_create s parent before "" _
  | _ =>
      refine stdout_host (m := m) ?_ s
      intro c h
      cases h

/-- An announcing machine prints the announcement of a command, which itself
prints nothing. -/
theorem stdout_announcing {r : Request} {s : MachineState}
    (hquiet : ∀ c, r = .run c → m.Quiet s.files c) :
    (announcing m.host r s).2.stdout = written s.stdout
      (Account.stdout m.output (Exchange.announced ⟨r, (announcing m.host r s).1⟩)) := by
  cases r with
  | run c =>
      -- The announcement comes first and leaves the files as they are, so that the
      -- command is still quiet.
      have hannounced : m.Quiet (m.host (.tell (.command c.line)) s).2.files c := by
        rw [tell_files]
        exact hquiet c rfl
      show (m.run c (m.host (.tell (.command c.line)) s).2).2.stdout = _
      rw [stdout_run hannounced]
      exact stdout_tell (m := m) (.command c.line) s
  | capture c => exact (m.host_capture_streams c s).1
  | fetch url => exact stdout_fetch url s
  | createFile parent before after content => exact stdout_create s parent before after _
  | createDirectory parent before => exact stdout_create s parent before "" _
  | _ =>
      refine stdout_host (m := m) ?_ s
      intro c h
      cases h

/-! ## §3. A procedure. -/

/-- **What its requests print is what a procedure prints**, each in the state
that it meets. -/
theorem stdout_through {α : Type} {high : Host MachineState} {below : Exchange → Account}
    {o : Output} {p : Procedure α} {s : MachineState}
    (h : ∀ q ∈ p.moments high s, (high q.1 q.2).2.stdout
      = written q.2.stdout (Account.stdout o (below ⟨q.1, (high q.1 q.2).1⟩))) :
    (p.perform high s).2.stdout
      = written s.stdout (Account.stdout o ((p.account high s).flatMap below)) := by
  -- On the procedure; each request adds its lines behind those that stand there when it
  -- is met.
  induction p generalizing s with
  | done a => rfl
  | fail e => rfl
  | ask r k ih =>
      obtain ⟨hfirst, hrest⟩ := List.forall_mem_cons.mp h
      show ((k (high r s).1).perform high (high r s).2).2.stdout = _
      rw [ih _ hrest, hfirst]
      simp only [account, List.flatMap_cons, stdout_append, written_append]

end Printing

end Provision
