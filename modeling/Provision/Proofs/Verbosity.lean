/-
  Provision.Proofs.Verbosity
  ──────────────────────────
  **VERBOSITY ONLY FILTERS.**

  No step asks how much is printed: a run tells its notices whatever the mode
  is, and the mode decides afterwards which of them become lines.  So two runs
  that differ in the mode alone make the same calls and end alike, and the
  quieter one prints some of the lines of the louder one, in their order.  Two
  hosts may choose different names for what they create; as far as they do,
  the commands and lines are alike and not equal.

  Main results:

    `lines_sublist`      a quieter mode prints some of the lines of a louder one
    `printsAlike_exchanges`  alike exchanges print alike lines
    `perform_modes`      on a machine two modes differ in what they print alone
    `observe_filters`    two modes: the same calls, result and warnings, and
                         fewer lines
-/
import Provision.Proofs.Preview

namespace Provision

open Procedure

/-! ## §1. Modes. -/

/-- How much a mode prints. -/
def OutputMode.level : OutputMode → Nat
  | .quiet => 0
  | .normal => 1
  | .verbose => 2

/-- The arguments with the flags that ask for a mode, in the place of their
own. -/
def CommandLine.Arguments.inMode (a : CommandLine.Arguments) (m : OutputMode) :
    CommandLine.Arguments :=
  { a with verbose := m == .verbose, quiet := m == .quiet }

/-- Arguments in a mode have that mode. -/
theorem outputMode_inMode (a : CommandLine.Arguments) (m : OutputMode) :
    (a.inMode m).outputMode = m := by
  cases m <;> rfl

/-- Without a terminal a mode is all that there is to an output. -/
theorem output_inMode (w : Surroundings) (a : CommandLine.Arguments) (m : OutputMode) :
    Session.output w (a.inMode m) = { mode := m } := by
  have htheme : Theme.detect (w.noColor (a.inMode m)) false = .plain := by
    unfold Theme.detect Theme.useColors
    rw [Bool.and_false]
    rfl
  unfold Session.output
  rw [htheme, outputMode_inMode]

namespace Output

variable {x y : OutputMode}

/-- A line that a mode prints is printed in every louder mode. -/
theorem render_level (h : x.level ≤ y.level) (o : Output) {n : Notice} {p : Printed}
    (hp : render { o with mode := x } n = some p) : render { o with mode := y } n = some p := by
  -- Each mode shows what the next quieter one shows; the other pairs are not in order.
  cases x with
  | quiet => exact render_quiet o y hp
  | normal =>
      cases y with
      | quiet => exact absurd h (by decide)
      | normal => exact hp
      | verbose => exact render_normal o hp
  | verbose =>
      cases y with
      | verbose => exact hp
      | _ => exact absurd h (by decide)

/-- Notices are rendered one by one. -/
theorem lines_cons (o : Output) (stream : OutputStream) (n : Notice) (ns : List Notice) :
    o.lines stream (n :: ns) = o.lines stream [n] ++ o.lines stream ns := by
  unfold lines
  rw [← List.filterMap_append, ← List.filterMap_append, List.singleton_append]

theorem lines_one (o : Output) (stream : OutputStream) (n : Notice) :
    o.lines stream [n] = match o.render n with
      | some p => if p.stream = stream then [p.line] else []
      | none => [] := by
  unfold lines
  rw [List.filterMap_cons]
  cases o.render n with
  | none => rfl
  | some p =>
      show List.filterMap _ [p] = _
      rw [List.filterMap_cons]
      dsimp only
      split <;> simp_all

/-- A command that runs is shown in the verbose mode only. -/
theorem lines_command (o : Output) (line : String) :
    o.lines .stdout [.command line]
      = if o.mode.showsCommands then ["  " ++ o.theme.formatCommand o.colors line] else [] := by
  obtain ⟨mode, theme, colors⟩ := o
  cases mode <;> rfl

theorem lines_command_stderr (o : Output) (line : String) :
    o.lines .stderr [.command line] = [] := by
  obtain ⟨mode, theme, colors⟩ := o
  cases mode <;> rfl

/-- **A quieter mode prints some of the lines of a louder one**, in their
order. -/
theorem lines_sublist (h : x.level ≤ y.level) (o : Output) (stream : OutputStream)
    (ns : List Notice) :
    (lines { o with mode := x } stream ns).Sublist (lines { o with mode := y } stream ns) := by
  induction ns with
  | nil => exact .slnil
  | cons n ns ih =>
      rw [lines_cons, lines_cons { o with mode := y }]
      refine List.Sublist.append ?_ ih
      rw [lines_one]
      cases hx : render { o with mode := x } n with
      | none => exact List.nil_sublist _
      | some p =>
          rw [lines_one, render_level h o hx]

/-- **Every mode prints the same lines on standard error.** -/
theorem lines_stderr (o : Output) (x : OutputMode) (ns : List Notice) :
    lines { o with mode := x } .stderr ns = o.lines .stderr ns := by
  induction ns with
  | nil => rfl
  | cons n ns ih =>
      -- A notice that depends on the mode goes to standard output.
      have hone : lines { o with mode := x } .stderr [n] = o.lines .stderr [n] := by
        obtain ⟨mode, theme, colors⟩ := o
        cases n <;> cases x <;> cases mode <;> rfl
      rw [lines_cons, lines_cons o, ih, hone]

end Output

/-! ## §2. What alike exchanges print. -/

/-- The lines that reach standard error. -/
def Account.stderr (o : Output) (E : Account) : List String := o.lines .stderr E.notices

/-- The lines of two accounts on standard error, one after the other. -/
@[simp] theorem stderr_append (o : Output) (E F : Account) :
    Account.stderr o (E ++ F) = E.stderr o ++ F.stderr o := by
  simp only [Account.stderr, Output.lines, Account.notices_append, List.filterMap_append]

/-- What an exchange of a run is below its layer. -/
abbrev Exchange.below (dryRun : Bool) : Exchange → Account :=
  if dryRun then Exchange.rehearsed else Exchange.announced

/-- Two accounts print alike lines on standard output and the same ones on
standard error. -/
structure PrintsAlike (N : Renaming) (o : Output) (D R : Account) : Prop where
  stdout : List.Forall₂ N.Alike (D.stdout o) (R.stdout o)
  stderr : D.stderr o = R.stderr o

section Exchanges

variable {N : Renaming} {o : Output}

/-- Accounts that print alike print alike together. -/
theorem PrintsAlike.append {D D' R R' : Account} (h : PrintsAlike N o D R)
    (h' : PrintsAlike N o D' R') : PrintsAlike N o (D ++ D') (R ++ R') where
  stdout := by
    rw [stdout_append, stdout_append]
    exact List.rel_append h.stdout h'.stdout
  stderr := by rw [stderr_append, stderr_append, h.stderr, h'.stderr]

theorem printsAlike_refl (E : Account) : PrintsAlike N o E E where
  stdout := List.forall₂_same.mpr fun s _ => .same s
  stderr := rfl

/-- The lines of alike commands, be they announced or planned. -/
theorem printsAlike_line {line line' : String} (h : N.Alike line line') :
    PrintsAlike N o [⟨.tell (.command line), ()⟩] [⟨.tell (.command line'), ()⟩]
      ∧ PrintsAlike N o [⟨.tell (.planned line), ()⟩] [⟨.tell (.planned line'), ()⟩] := by
  have hline : N.Alike ("  " ++ o.theme.formatCommand o.colors line)
      ("  " ++ o.theme.formatCommand o.colors line') :=
    .append (.same _) (alike_paint _ _ (.append (.same _) h))
  refine ⟨⟨?_, ?_⟩, ⟨.cons hline .nil, rfl⟩⟩
  · show List.Forall₂ N.Alike (o.lines .stdout [.command line]) (o.lines .stdout [.command line'])
    rw [Output.lines_command, Output.lines_command]
    split
    · exact .cons hline .nil
    · exact .nil
  · show o.lines .stderr [.command line] = o.lines .stderr [.command line']
    rw [Output.lines_command_stderr, Output.lines_command_stderr]

/-- **One exchange prints like an alike one**, be it rehearsed or announced. -/
theorem printsAlike_exchange {e f : Exchange} (h : N.likeness.Exchanges e f) (dryRun : Bool) :
    PrintsAlike N o (e.below dryRun) (f.below dryRun) := by
  obtain ⟨q, x⟩ := e
  obtain ⟨r, y⟩ := f
  obtain ⟨hr, -⟩ := h
  cases hr with
  | run hc =>
      have hline := printsAlike_line (o := o) (Renaming.alike_line hc)
      cases dryRun with
      | true => exact hline.2
      -- The command itself prints nothing behind its announcement.
      | false => exact ⟨hline.1.stdout, hline.1.stderr⟩
  | tell hn =>
      obtain ⟨rfl, -⟩ := hn
      cases dryRun <;> exact printsAlike_refl _
  | _ => cases dryRun <;> exact ⟨.nil, rfl⟩

/-- **Alike exchanges print alike lines.** -/
theorem printsAlike_exchanges {E F : Account} (h : List.Forall₂ N.likeness.Exchanges E F)
    (dryRun : Bool) :
    PrintsAlike N o (E.flatMap (Exchange.below dryRun)) (F.flatMap (Exchange.below dryRun)) := by
  induction h with
  | nil => exact printsAlike_refl []
  | cons hef _ ih =>
      rw [List.flatMap_cons, List.flatMap_cons]
      exact (printsAlike_exchange hef dryRun).append ih

end Exchanges

/-! ## §3. The quiet mode. -/

/-- The line by which a planned command is shown. -/
def Command.plannedLine (c : Command) : String := "  $ " ++ c.line

/-- In quiet mode one exchange prints its command, if it is only planned. -/
theorem quiet_exchange {e : Exchange} (h : ∀ n, e.request = .tell n → n.isStatus = true)
    (dryRun : Bool) :
    Account.stdout { mode := .quiet } (e.below dryRun)
      = if dryRun then (Account.commands [e]).map Command.plannedLine else [] := by
  obtain ⟨q, x⟩ := e
  cases q with
  | run c =>
      cases dryRun with
      | true =>
          show ["  " ++ paint false [] ("$ " ++ c.line)] = ["  $ " ++ c.line]
          rw [paint_plain, ← String.append_assoc]
          rfl
      | false => rfl
  | tell n =>
      have hstatus := h n rfl
      cases n with
      | command line => cases hstatus
      | planned line => cases hstatus
      | _ => cases dryRun <;> rfl
  | _ => cases dryRun <;> rfl

/-- **In quiet mode nothing but planned commands is printed**, each on a line. -/
theorem quiet_exchanges {E : Account}
    (h : ∀ e ∈ E, ∀ n, e.request = .tell n → n.isStatus = true) (dryRun : Bool) :
    Account.stdout { mode := .quiet } (E.flatMap (Exchange.below dryRun))
      = if dryRun then E.commands.map Command.plannedLine else [] := by
  induction E with
  | nil => cases dryRun <;> rfl
  | cons e E ih =>
      have hcommands : Account.commands (e :: E) = Account.commands [e] ++ Account.commands E :=
        Account.commands_append [e] E
      rw [List.flatMap_cons, stdout_append, quiet_exchange (h e (List.mem_cons_self ..)),
        ih fun e he => h e (List.mem_cons_of_mem _ he), hcommands, List.map_append]
      cases dryRun <;> rfl

/-! ## §4. Two runs. -/

/-- The downloads and the calls to the runner. -/
def Account.calls (E : Account) : List Request :=
  (E.map Exchange.request).filter Request.isCall

@[simp] theorem calls_append (E F : Account) :
    Account.calls (E ++ F) = E.calls ++ F.calls := by
  simp only [Account.calls, List.map_append, List.filter_append]

/-- Alike accounts make alike calls. -/
theorem calls_alike {L : Likeness} {E F : Account} (h : List.Forall₂ L.Exchanges E F) :
    List.Forall₂ L.Requests E.calls F.calls :=
  Likeness.filter_alike (fun hr => by cases hr <;> rfl) h

/-- Alike exchanges make alike calls below a layer. -/
theorem calls_below {L : Likeness} {E F : Account} (h : List.Forall₂ L.Exchanges E F)
    (dryRun : Bool) :
    List.Forall₂ L.Requests (Account.calls (E.flatMap (Exchange.below dryRun)))
      (Account.calls (F.flatMap (Exchange.below dryRun))) := by
  induction h with
  | nil => exact .nil
  | @cons e f _ _ hef _ ih =>
      rw [List.flatMap_cons, List.flatMap_cons, calls_append, calls_append]
      refine List.rel_append ?_ ih
      obtain ⟨q, x⟩ := e
      obtain ⟨r, y⟩ := f
      obtain ⟨hr, -⟩ := hef
      cases hr with
      | run hc =>
          cases dryRun with
          | true => exact .nil
          | false => exact .cons (.run hc) .nil
      | capture c => cases dryRun <;> exact .cons (.capture c) .nil
      | fetch url =>
          cases dryRun with
          | true => exact .nil
          | false => exact .cons (.fetch url) .nil
      | _ => cases dryRun <;> exact .nil

/-- What a run asks its layer for, with the answers. -/
def Run.asked {σ : Type} (host : Host σ) (w : Surroundings) (a : CommandLine.Arguments) (s : σ) :
    Account := (Run.install w a).account (Run.layer a host) s

/-- What is observed of a run lies below what the run asks its layer for. -/
theorem observe_asked {σ : Type} (host : Host σ) (w : Surroundings) (a : CommandLine.Arguments)
    (s : σ) : Run.observe host w a s
      = (((Run.install w a).perform (Run.layer a host) s).1,
          (Run.asked host w a s).flatMap (Exchange.below a.dryRun)) := by
  unfold Run.observe
  rw [perform_layer_observed]
  rfl

/-- A run tells the state of its steps and never announces a command itself. -/
theorem asked_status {σ : Type} (host : Host σ) (w : Surroundings) (a : CommandLine.Arguments)
    (s : σ) : ∀ e ∈ Run.asked host w a s, ∀ n, e.request = .tell n → n.isStatus = true := by
  -- As the run is alike to itself, so is each of its exchanges.
  have hleads := leads_account (Run.layer a host) (Run.install w a) s
  have halike := ((Likeness.alike_session (L := Renaming.likeness {}) w a).inTurn hleads hleads
    (Likeness.inTurn_refl _)).1
  intro e he n hn
  have hrequest := (List.forall₂_same.mp halike e he).1
  rw [hn] at hrequest
  cases hrequest with
  | tell h => exact h.2

/-! ## §5. On a machine. -/

/-- Two states of a machine that differ in what was printed only. -/
structure MachineState.Alongside (s t : MachineState) : Prop where
  files : s.files = t.files
  calls : s.calls = t.calls

/-- Hosts that give the same answers in such states, and keep them so. -/
def AnswerAlongside (host host' : Host MachineState) : Prop :=
  ∀ r s t, s.Alongside t →
    (host r s).1 = (host' r t).1 ∧ (host r s).2.Alongside (host' r t).2

section Machines

variable {m : Machine} {s t : MachineState}

theorem MachineState.Alongside.symm (h : s.Alongside t) : t.Alongside s where
  files := h.files.symm
  calls := h.calls.symm

/-- Printing leaves a state alongside the other. -/
theorem print_alongside (h : s.Alongside t) (p : Printed) : (s.print p).Alongside t := by
  unfold MachineState.print
  cases p.stream <;> exact ⟨h.files, h.calls⟩

/-- What is told or logged changes nothing but what was printed. -/
theorem tell_alongside (h : s.Alongside t) (n : Notice) : (m.host (.tell n) s).2.Alongside t := by
  simp only [Machine.host]
  split
  · exact print_alongside h _
  · exact h

theorem log_alongside (h : s.Alongside t) (e : LogEntry) : (m.host (.log e) s).2.Alongside t := by
  simp only [Machine.host]
  split
  · exact print_alongside h _
  · exact h

/-- A line in the log, or none, in both states. -/
theorem note_alongside (h : s.Alongside t) (source : LogSource) (text : String) :
    (m.note source text s).Alongside (m.note source text t) := by
  have hs : (m.note source text s).Alongside t := log_alongside h ⟨.debug, source, text⟩
  have ht : (m.note source text t).Alongside (m.note source text s) :=
    log_alongside hs.symm ⟨.debug, source, text⟩
  exact ht.symm

/-- New names are chosen by the files, in which the states agree. -/
theorem create_alongside (h : s.Alongside t) (parent : Path) (before after : String) (e : Entry) :
    (m.create s parent before after e).1 = (m.create t parent before after e).1 ∧
      (m.create s parent before after e).2.Alongside (m.create t parent before after e).2 := by
  unfold Machine.create
  rw [h.files]
  split
  · exact ⟨rfl, h⟩
  · exact ⟨rfl, rfl, h.calls⟩

/-- **A command does the same in both states**, for it cannot see what was
printed. -/
theorem run_alongside (h : s.Alongside t) (c : Command) :
    (m.run c s).1 = (m.run c t).1 ∧ (m.run c s).2.Alongside (m.run c t).2 := by
  have hnote := note_alongside (m := m) h .command ("Running: " ++ c.line)
  unfold Machine.run
  dsimp only
  rw [hnote.files]
  split
  · exact ⟨rfl, note_alongside hnote _ _⟩
  · refine ⟨rfl, ?_⟩
    apply note_alongside
    exact ⟨rfl, congrArg (· ++ _) hnote.calls⟩

/-- **A machine never looks at what was printed.** -/
theorem host_alongside (m : Machine) : AnswerAlongside m.host m.host := by
  intro r s t h
  cases r with
  | run c => exact run_alongside h c
  | capture c =>
      simp only [Machine.host, Machine.capture]
      rw [h.files]
      split
      · exact ⟨rfl, h⟩
      · exact ⟨rfl, rfl, by rw [h.calls]⟩
  | fetch url =>
      have hnote := note_alongside (m := m) h .download ("Fetching " ++ url)
      simp only [Machine.host, Machine.fetch]
      split
      · exact ⟨rfl, hnote⟩
      · exact ⟨rfl, note_alongside hnote _ _⟩
  | locate tool => exact ⟨by simp only [Machine.host]; rw [h.files], h⟩
  | createFile parent before after content => exact create_alongside h _ _ _ _
  | createDirectory parent before => exact create_alongside h _ _ _ _
  | discard path =>
      simp only [Machine.host]
      rw [h.files]
      refine ⟨trivial, ?_⟩
      split
      · exact ⟨rfl, h.calls⟩
      · exact h
  | doesExist path => exact ⟨by simp only [Machine.host]; rw [h.files], h⟩
  | read path => exact ⟨by simp only [Machine.host]; rw [h.files], h⟩
  | tell n => exact ⟨rfl, tell_alongside (tell_alongside h.symm n).symm n⟩
  | log e => exact ⟨rfl, log_alongside (log_alongside h.symm e).symm e⟩

/-- **Nor does how it prints make a difference.** -/
theorem machine_alongside (m : Machine) (o o' : Output) :
    AnswerAlongside { m with output := o }.host { m with output := o' }.host := by
  intro r s t h
  by_cases htell : ∃ n, r = .tell n
  · obtain ⟨n, rfl⟩ := htell
    exact ⟨rfl, tell_alongside (tell_alongside h.symm n).symm n⟩
  · -- Only what a notice prints depends on the output.
    have hhost : ∀ o s, Machine.host { m with output := o } r s = m.host r s := by
      intro o s
      cases r with
      | tell n => exact absurd ⟨n, rfl⟩ htell
      | _ => rfl
    rw [hhost o, hhost o']
    exact host_alongside m r s t h

/-- A layer passes on what its hosts have in common. -/
theorem layer_alongside {host host' : Host MachineState} (h : AnswerAlongside host host')
    (a : CommandLine.Arguments) : AnswerAlongside (Run.layer a host) (Run.layer a host') := by
  unfold Run.layer
  intro r s t hst
  cases a.dryRun with
  | true =>
      cases r with
      | run c => exact ⟨rfl, (h (.tell (.planned c.line)) s t hst).2⟩
      | fetch url =>
          exact ⟨rfl, (h (.log ⟨.info, .download, "Would download " ++ url⟩) s t hst).2⟩
      | _ => exact h _ s t hst
  | false =>
      cases r with
      | run c => exact h _ _ _ (h (.tell (.command c.line)) s t hst).2
      | _ => exact h _ s t hst

/-- **What hosts answer alike is performed alike.** -/
theorem perform_alongside {α : Type} {host host' : Host MachineState}
    (h : AnswerAlongside host host') (p : Procedure α) (hst : s.Alongside t) :
    (p.perform host s).1 = (p.perform host' t).1
      ∧ (p.perform host s).2.Alongside (p.perform host' t).2
      ∧ p.account host s = p.account host' t := by
  induction p generalizing s t with
  | done a => exact ⟨rfl, hst, rfl⟩
  | fail e => exact ⟨rfl, hst, rfl⟩
  | ask r k ih =>
      obtain ⟨hanswer, hnext⟩ := h r s t hst
      simp only [perform, account, ← hanswer]
      obtain ⟨hresult, hstates, haccount⟩ := ih (host r s).1 hnext
      exact ⟨hresult, hstates, congrArg _ haccount⟩

end Machines

/-- A run on a machine: its result and the state that it leaves. -/
def Run.onMachine (m : Machine) (w : Surroundings) (a : CommandLine.Arguments)
    (s : MachineState) : Except Failure Unit × MachineState :=
  (Run.install w a).perform (Run.layer a (Session.machine m w a).host) s

/-- The lines that the run on a machine prints on standard output. -/
def Run.printed (m : Machine) (w : Surroundings) (a : CommandLine.Arguments)
    (s : MachineState) : List String :=
  (Run.observe (Session.machine m w a).host w a s).2.stdout (Session.output w a)

/-- No command that the run starts prints anything; a dry run starts none. -/
def Run.StartsQuiet (m : Machine) (w : Surroundings) (a : CommandLine.Arguments)
    (s : MachineState) : Prop :=
  a.dryRun = false → ∀ q ∈ (Run.install w a).moments (Run.layer a (Session.machine m w a).host) s,
    ∀ c, q.1 = .run c → (Session.machine m w a).Quiet q.2.files c

/-- **The lines of a run are what reaches the standard output of a machine.** -/
theorem stdout_onMachine {m : Machine} {w : Surroundings} {a : CommandLine.Arguments}
    {s : MachineState} (hquiet : Run.StartsQuiet m w a s) :
    (Run.onMachine m w a s).2.stdout = written s.stdout (Run.printed m w a s) := by
  unfold Run.printed
  rw [observe_asked]
  refine stdout_through fun q hq => ?_
  unfold Run.StartsQuiet at hquiet
  unfold Run.layer at hq hquiet ⊢
  unfold Exchange.below
  cases hdry : a.dryRun with
  | true => exact stdout_rehearsing (m := Session.machine m w a) q.1 q.2
  | false =>
      rw [hdry] at hq hquiet
      exact stdout_announcing (m := Session.machine m w a) (hquiet rfl q hq)

/-- What a run in the mode `x` is to one in the mode `y` on the same machine: it
ends alike, leaves the same files and has called the same tools, and prints some
of the lines.  These are the bytes on standard output, with a line feed behind
each, where no command that is run prints anything. -/
structure FiltersOnMachine (m : Machine) (w : Surroundings) (a : CommandLine.Arguments)
    (s : MachineState) (x y : OutputMode) : Prop where
  result : (Run.onMachine m w (a.inMode x) s).1 = (Run.onMachine m w (a.inMode y) s).1
  files : (Run.onMachine m w (a.inMode x) s).2.files = (Run.onMachine m w (a.inMode y) s).2.files
  calls : (Run.onMachine m w (a.inMode x) s).2.calls = (Run.onMachine m w (a.inMode y) s).2.calls
  lines : (Run.printed m w (a.inMode x) s).Sublist (Run.printed m w (a.inMode y) s)
  stdout : ∀ z, Run.StartsQuiet m w (a.inMode z) s →
    (Run.onMachine m w (a.inMode z) s).2.stdout
      = written s.stdout (Run.printed m w (a.inMode z) s)

/-- **On a machine two modes differ in what they print alone.** -/
theorem perform_modes (m : Machine) (w : Surroundings) (a : CommandLine.Arguments)
    (s : MachineState) {x y : OutputMode} (hlevel : x.level ≤ y.level) :
    FiltersOnMachine m w a s x y := by
  have hsame := layer_alongside (machine_alongside { m with log := Session.log w a }
    (Session.output w (a.inMode x)) (Session.output w (a.inMode y))) a
  obtain ⟨hresult, hstates, haccount⟩ :=
    perform_alongside hsame (Run.install w a) (s := s) (t := s) ⟨rfl, rfl⟩
  -- Both modes have the same account, and each prints its own part of it.
  have hasked : Run.asked (Session.machine m w (a.inMode x)).host w (a.inMode x) s
      = Run.asked (Session.machine m w (a.inMode y)).host w (a.inMode y) s := haccount
  refine ⟨hresult, hstates.files, hstates.calls, ?_, fun z hquiet => stdout_onMachine hquiet⟩
  unfold Run.printed
  rw [observe_asked, observe_asked, hasked, output_inMode, output_inMode]
  exact Output.lines_sublist hlevel {} .stdout _

/-! ## §6. What the mode decides. -/

/-- What a run that prints by `o` is to one that prints by `o'`: it ends alike
after alike calls and the same warnings, and prints some of the lines. -/
structure Filters (N : Renaming) (o o' : Output) (D R : Except Failure Unit × Account) :
    Prop where
  result : N.likeness.Outcomes Eq D.1 R.1
  calls : List.Forall₂ N.likeness.Requests D.2.calls R.2.calls
  warnings : D.2.stderr o = R.2.stderr o'
  lines : ∃ ls, List.Forall₂ N.Alike (D.2.stdout o) ls ∧ ls.Sublist (R.2.stdout o')

/-- **Verbosity only filters.**  Let two runs of one command line differ in
their mode, the first being no louder than the second, on hosts that give alike
answers as long as they are asked alike.  Then both make alike calls, to the
layer and below it, and end alike; they print the same warnings, and what the
first prints on standard output is, up to the names of what is created, some of
what the second prints.  In quiet mode a real run prints nothing there, and a
dry run the planned commands, each on a line, and nothing else.  On a machine
the files that both leave are the same, and the lines are what reaches its
standard output. -/
theorem observe_filters {σ τ : Type} (N : Renaming) (host : Host σ) (host' : Host τ)
    (w : Surroundings) (a : CommandLine.Arguments) (s : σ) (t : τ) (x y : OutputMode)
    (hlevel : x.level ≤ y.level)
    (hturn : N.likeness.InTurn (Run.asked host w (a.inMode x) s)
      (Run.asked host' w (a.inMode y) t)) :
    List.Forall₂ N.likeness.Requests (Run.asked host w (a.inMode x) s).calls
        (Run.asked host' w (a.inMode y) t).calls
      ∧ Filters N (Session.output w (a.inMode x)) (Session.output w (a.inMode y))
          (Run.observe host w (a.inMode x) s) (Run.observe host' w (a.inMode y) t)
      ∧ (x = .quiet →
          (Run.observe host w (a.inMode x) s).2.stdout (Session.output w (a.inMode x))
            = if a.dryRun then
                (Run.asked host w (a.inMode x) s).commands.map Command.plannedLine
              else [])
      ∧ ∀ (m : Machine) (u : MachineState), FiltersOnMachine m w a u x y := by
  have hD := leads_account (Run.layer (a.inMode x) host) (Run.install w (a.inMode x)) s
  have hR := leads_account (Run.layer (a.inMode y) host') (Run.install w (a.inMode y)) t
  -- The procedure is the same in both modes.
  obtain ⟨halike, hresult⟩ :=
    (Likeness.alike_session (L := N.likeness) w (a.inMode x)).inTurn hD hR hturn
  have hprints := printsAlike_exchanges (o := { mode := x }) halike a.dryRun
  rw [observe_asked, observe_asked, output_inMode, output_inMode]
  refine ⟨calls_alike halike, ⟨hresult, calls_below halike a.dryRun, ?warnings, ?lines⟩, ?quiet,
    fun m u => perform_modes m w a u hlevel⟩
  case warnings => exact hprints.stderr.trans (Output.lines_stderr { mode := y } x _)
  case lines => exact ⟨_, hprints.stdout, Output.lines_sublist hlevel {} .stdout _⟩
  case quiet =>
    rintro rfl
    exact quiet_exchanges (asked_status host w (a.inMode .quiet) s) a.dryRun

/-- A developer's dry run. -/
def developerPreview : CommandLine.Arguments where
  environment := .developer
  dryRun := true

/-- On a recorder the quiet preview is a filter of the verbose one: all that it
prints are the planned commands. -/
theorem observe_filters_recorder :
    Filters {} (Session.output { directory := ⟨"/srv/app"⟩ } (developerPreview.inMode .quiet))
        (Session.output { directory := ⟨"/srv/app"⟩ } (developerPreview.inMode .verbose))
        (Run.observe Recorder.host { directory := ⟨"/srv/app"⟩ }
          (developerPreview.inMode .quiet) {})
        (Run.observe Recorder.host { directory := ⟨"/srv/app"⟩ }
          (developerPreview.inMode .verbose) {})
      ∧ (Run.observe Recorder.host { directory := ⟨"/srv/app"⟩ }
          (developerPreview.inMode .quiet) {}).2.stdout
            (Session.output { directory := ⟨"/srv/app"⟩ } (developerPreview.inMode .quiet))
          = (Run.asked Recorder.host { directory := ⟨"/srv/app"⟩ }
              (developerPreview.inMode .quiet) {}).commands.map Command.plannedLine := by
  obtain ⟨-, hfilters, hquiet, -⟩ := observe_filters {} Recorder.host Recorder.host
    { directory := ⟨"/srv/app"⟩ } developerPreview {} {} .quiet .verbose (by decide)
    (Likeness.inTurn_refl _)
  exact ⟨hfilters, hquiet rfl⟩

end Provision
