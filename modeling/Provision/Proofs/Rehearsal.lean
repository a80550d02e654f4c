/-
  Provision.Proofs.Rehearsal
  ──────────────────────────
  **A DRY RUN CHANGES NOTHING.**

  On a rehearsing machine only two doors to the files are left: what a tidy
  procedure creates around a body, and the commands whose output is captured.
  The first takes back what it has put in, and the second is Homebrew's answer
  to a question, at most once and on macOS only.

  Main results:

    `Tidy.restores`          a tidy rehearsal leaves the files as they were
    `asksOnce_install`       a dry run asks Homebrew at most once
    `start_dryRun`           a dry run starts nothing else and changes nothing
-/
import Provision.Host.Session
import Provision.Proofs.GivenFlags
import Provision.Proofs.NewNames
import Provision.Proofs.Tidy

namespace Provision

open Procedure

/-! ## §1. The files after a rehearsal. -/

section Files

variable {m : Machine} {α : Type}

/-- Printing changes no file. -/
theorem print_files (s : MachineState) (p : Printed) : (s.print p).files = s.files := by
  unfold MachineState.print
  dsimp only
  cases p.stream <;> rfl

/-- Notices change no file. -/
theorem tell_files (n : Notice) (s : MachineState) :
    (m.host (.tell n) s).2.files = s.files := by
  simp only [Machine.host]
  split
  · exact print_files s _
  · rfl

theorem log_files (e : LogEntry) (s : MachineState) : (m.host (.log e) s).2.files = s.files := by
  simp only [Machine.host]
  split
  · exact print_files s _
  · rfl

/-- What is discarded is removed from the files. -/
theorem discard_files {path : Path} {names : List String} {s : MachineState}
    (h : s.files.resolve m.workingDirectory path = .ok names) :
    (m.host (.discard path) s).2.files = s.files.remove names := by
  simp only [Machine.host, h]

/-- What neither asks a tool nor creates or removes leaves the files alone. -/
theorem rehearsing_plain_files {r : Request} (hr : r.isPlain = true) (s : MachineState) :
    (rehearsing m.host r s).2.files = s.files := by
  cases r with
  | run c => exact tell_files (m := m) (.planned c.line) s
  | capture c => cases hr
  | fetch url => exact log_files (m := m) ⟨.info, .download, "Would download " ++ url⟩ s
  | locate tool => rfl
  | createFile parent before after content => cases hr
  | createDirectory parent before => cases hr
  | discard path => cases hr
  | doesExist path => rfl
  | read path => rfl
  | tell n => exact tell_files n s
  | log e => exact log_files e s

/-- A body on its own new place, and the removal of that place after it. -/
theorem cleanUp_files {parent : Path} {before after : String} {e : Entry}
    {body : Path → Procedure α} {s : MachineState} (hrooted : s.files.Rooted)
    (hbody : ∀ path t, t.files.Rooted →
      ((body path).perform (rehearsing m.host) t).2.files = t.files) :
    (((ofExcept (m.create s parent before after e).1).bind fun path =>
        (body path).withCleanUp (discard path)).perform (rehearsing m.host)
      (m.create s parent before after e).2).2.files = s.files := by
  unfold Machine.create
  cases hfresh : s.files.freshPath m.workingDirectory parent before after m.middles with
  | error f => rfl
  | ok new =>
      obtain ⟨path, names⟩ := new
      obtain ⟨hresolve, hfree, mode, hparent⟩ := FileSystem.freshPath_eq_ok hfresh
      have hbody' := hbody path { s with files := s.files.insert names e }
        (hrooted.insert hfree hparent)
      show (((body path).withCleanUp (discard path)).perform (rehearsing m.host)
        { s with files := s.files.insert names e }).2.files = s.files
      rw [perform_withCleanUp]
      generalize (body path).perform (rehearsing m.host)
        { s with files := s.files.insert names e } = result at hbody'
      obtain ⟨x, t⟩ := result
      change t.files = s.files.insert names e at hbody'
      -- The path still leads to the place, and nothing else is there.
      have hthere : t.files.resolve m.workingDirectory path = .ok names := by
        rw [hbody', FileSystem.resolve_insert hfree hresolve]
      show (m.host (.discard path) t).2.files = s.files
      rw [discard_files hthere, hbody']
      exact FileSystem.remove_insert_new hrooted hfree

/-- **A tidy rehearsal leaves the files as they were**, if what it captures
does. -/
theorem Procedure.Tidy.restores {P : Command → Prop}
    (hP : ∀ c, P c → ∀ s, (m.capture c s).2.files = s.files) {p : Procedure α} (h : p.Tidy P) :
    ∀ s : MachineState, s.files.Rooted →
      (p.perform (rehearsing m.host) s).2.files = s.files := by
  induction h with
  | done a => exact fun s _ => rfl
  | fail e => exact fun s _ => rfl
  -- The files are the same after each part, so that they stay rooted for the next.
  | @plain _ r k hr _ ih =>
      intro s hs
      have hfiles := rehearsing_plain_files (m := m) hr s
      show ((k (rehearsing m.host r s).1).perform (rehearsing m.host)
        (rehearsing m.host r s).2).2.files = s.files
      rw [ih _ _ (hfiles ▸ hs), hfiles]
  | @capture _ c k hc _ ih =>
      intro s hs
      have hfiles := hP c hc s
      show ((k (m.capture c s).1).perform (rehearsing m.host) (m.capture c s).2).2.files = s.files
      rw [ih _ _ (hfiles ▸ hs), hfiles]
  | @bind _ _ p f _ _ ih ih' =>
      intro s hs
      have hfirst := ih s hs
      rw [perform_bind]
      generalize p.perform (rehearsing m.host) s = result at hfirst
      obtain ⟨x, t⟩ := result
      change t.files = s.files at hfirst
      cases x with
      | error e => exact hfirst
      | ok a =>
          show ((f a).perform (rehearsing m.host) t).2.files = s.files
          rw [ih' a t (hfirst ▸ hs), hfirst]
  | attempt _ ih =>
      intro s hs
      rw [perform_attempt]
      exact ih s hs
  | withFile _ ih => exact fun s hs => cleanUp_files hs ih
  | withDirectory _ ih => exact fun s hs => cleanUp_files hs ih

end Files

/-! ## §2. One question at most. -/

/-- The commands whose output was captured. -/
def Account.captured (E : Account) : List Command :=
  E.filterMap fun e => match e.request with
    | .capture c => some c
    | _ => none

namespace Procedure

variable {α β : Type}

/-- No command is captured, whatever is answered. -/
def Silent (p : Procedure α) : Prop := ∀ E r, p.Leads E r → E.captured = []

/-- Homebrew is asked at most once, and only where the run installs again what
is there or has not found the compiler. -/
def AsksOnce (force : Bool) (p : Procedure α) : Prop :=
  ∀ E r, p.Leads E r → E.captured = [] ∨
    (E.captured = [ToolVersion.question "brew"] ∧
      (force = true ∨ ⟨.locate "javac", none⟩ ∈ E))

/-- The captured commands of two accounts, one after the other. -/
theorem captured_append (E F : Account) :
    Account.captured (E ++ F) = E.captured ++ F.captured := by
  simp only [Account.captured, List.filterMap_append]

/-- An account without a captured command captures nothing. -/
theorem captured_eq_nil {E : Account} (h : ∀ c x, (⟨.capture c, x⟩ : Exchange) ∉ E) :
    E.captured = [] := by
  unfold Account.captured
  rw [List.filterMap_eq_nil_iff]
  intro e he
  obtain ⟨q, x⟩ := e
  cases q with
  | capture c => exact (h c x he).elim
  | _ => rfl

/-- A tidy procedure that may ask no tool is silent. -/
theorem Tidy.silent {p : Procedure α} (h : p.Tidy fun _ => False) : p.Silent :=
  fun _ _ hleads => captured_eq_nil fun _ _ he => h.captured hleads he

/-- What may capture nothing captures nothing. -/
theorem Composed.silent {p : Procedure α} (h : p.Composed (fun _ => False) fun _ => True) :
    p.Silent :=
  h.tidy.silent

/-- What captures nothing captures one command at most. -/
theorem Silent.asksOnce {p : Procedure α} (h : p.Silent) (force : Bool) : p.AsksOnce force :=
  fun E r hleads => .inl (h E r hleads)

variable {force : Bool}

/-- A question in the first of two parts. -/
theorem AsksOnce.bind {p : Procedure α} {f : α → Procedure β} (hp : p.AsksOnce force)
    (hf : ∀ a, (f a).Silent) : (p.bind f).AsksOnce force := by
  intro E r h
  rcases leads_bind.mp h with ⟨e, he, -⟩ | ⟨a, E₁, E₂, rfl, h₁, h₂⟩
  · exact hp E _ he
  · rw [captured_append, hf a E₂ r h₂, List.append_nil]
    rcases hp E₁ _ h₁ with hnone | ⟨hone, hwhy⟩
    · exact .inl hnone
    · exact .inr ⟨hone, hwhy.imp_right fun hmem => List.mem_append_left _ hmem⟩

/-- A question in the second of two parts. -/
theorem Silent.bind {p : Procedure α} {f : α → Procedure β} (hp : p.Silent)
    (hf : ∀ a, (f a).AsksOnce force) : (p.bind f).AsksOnce force := by
  intro E r h
  rcases leads_bind.mp h with ⟨e, he, -⟩ | ⟨a, E₁, E₂, rfl, h₁, h₂⟩
  · exact .inl (hp E _ he)
  · rw [captured_append, hp E₁ _ h₁, List.nil_append]
    rcases hf a E₂ r h₂ with hnone | ⟨hone, hwhy⟩
    · exact .inl hnone
    · exact .inr ⟨hone, hwhy.imp_right fun hmem => List.mem_append_right _ hmem⟩

theorem AsksOnce.withDirectory {parent : Path} {before : String} {body : Path → Procedure α}
    (h : ∀ path, (body path).AsksOnce force) :
    (withDirectory parent before body).AsksOnce force := by
  intro E r hleads
  rcases leads_withDirectory.mp hleads with ⟨e, rfl, -⟩ | ⟨path, F, rfl, hF⟩
  · exact .inl rfl
  · have hsame : Account.captured
        (⟨.createDirectory parent before, .ok path⟩ :: (F ++ [⟨.discard path, ()⟩]))
          = F.captured := by
      show Account.captured (F ++ [⟨.discard path, ()⟩]) = F.captured
      rw [captured_append]
      exact List.append_nil _
    rw [hsame]
    exact (h path F r hF).imp_right fun ⟨hone, hwhy⟩ => ⟨hone, hwhy.imp_right fun hmem =>
      List.mem_cons_of_mem _ (List.mem_append_left _ hmem)⟩

theorem AsksOnce.attempt {p : Procedure α} (h : p.AsksOnce force) :
    p.attempt.AsksOnce force := by
  intro E r hleads
  obtain ⟨x, -, hx⟩ := leads_attempt.mp hleads
  exact h E x hx

end Procedure

/-- An account without calls captures nothing. -/
theorem captured_of_quiet {E : Account} (h : ∀ e ∈ E, e.request.isCall = false) :
    E.captured = [] :=
  Procedure.captured_eq_nil fun _ _ he => Bool.noConfusion (h _ he)

/-- A tool is asked for its version once. -/
theorem captured_ask {c : Command} {p : Pattern} {E : Account}
    {r : Except Failure (Option String)} (h : (ToolVersion.ask c p).Leads E r) :
    E.captured = [c] := by
  obtain ⟨answer, F, rfl, -, hquiet⟩ := ToolVersion.leads_ask_version h
  show c :: Account.captured F = [c]
  rw [captured_of_quiet hquiet]

/-- The version of Homebrew is one captured command. -/
theorem captured_homebrew {E : Account} {r : Except Failure String}
    (h : ToolVersion.homebrew.Leads E r) : E.captured = [ToolVersion.question "brew"] := by
  rcases leads_bind.mp h with ⟨e, he, -⟩ | ⟨version, E₁, E₂, rfl, h₁, h₂⟩
  · exact captured_ask he
  · obtain ⟨rfl, -⟩ := leads_done.mp h₂
    rw [List.append_nil]
    exact captured_ask h₁

/-- What is needed is missing, or the run installs it again. -/
theorem needsInstall_true {ctx : Context} {kind : Prerequisite} {E : Account}
    (h : (ctx.needsInstall kind).Leads E (.ok true)) :
    ctx.config.force = true ∨ ⟨.locate kind.binary, none⟩ ∈ E := by
  obtain ⟨found, F, rfl, hF⟩ := leads_ask.mp h
  cases found with
  | none => exact .inr (List.mem_cons_self ..)
  | some path =>
      change (if ctx.config.force then _ else _ : Procedure Bool).Leads F (.ok true) at hF
      split at hF
      · exact .inl ‹_›
      · obtain ⟨_, -, hneeded⟩ := leads_ask_done hF
        cases hneeded

/-- The JDK step asks once, after it has looked for the compiler. -/
theorem asksOnce_jdk (ctx : Context) :
    (Prerequisites.ensure ctx .javaCompiler).AsksOnce ctx.config.force := by
  cases hos : ctx.target.os with
  | linux =>
      exact (composed_ensure ctx _ fun h => by rw [hos] at h; cases h).silent.asksOnce _
  | windows =>
      exact (composed_ensure ctx _ fun h => by rw [hos] at h; cases h).silent.asksOnce _
  | macOS =>
      have heq : Prerequisites.ensure ctx .javaCompiler
          = Prerequisites.installJdkFormula ctx := by
        unfold Prerequisites.ensure
        rw [hos]
      rw [heq]
      intro E r h
      rcases leads_bind.mp h with ⟨e, he, -⟩ | ⟨needed, E₁, E₂, rfl, h₁, h₂⟩
      · exact .inl ((composed_needsInstall ctx _).silent E _ he)
      · -- The question comes after the look at the search path, which says why.
        rw [captured_append, (composed_needsInstall ctx _).silent E₁ _ h₁, List.nil_append]
        cases needed with
        | false =>
            obtain ⟨rfl, -⟩ := leads_done.mp h₂
            exact .inl rfl
        | true =>
            refine .inr ⟨?_, (needsInstall_true h₁).imp_right fun hmem =>
              List.mem_append_left _ hmem⟩
            rcases leads_bind.mp h₂ with ⟨e, he, -⟩ | ⟨version, E₃, E₄, rfl, h₃, h₄⟩
            · exact captured_homebrew he
            · have hrest : E₄.captured = [] := by
                refine Composed.silent ?_ E₄ r h₄
                show (if version == ToolVersion.notAvailable then _ else _ : Procedure _).Composed _ _
                split
                · exact .fail _
                · exact (composed_log _ _ _).andThen ((composed_step _).andThen (.run _))
              rw [captured_append, captured_homebrew h₃, hrest, List.append_nil]

/-- **A dry run asks Homebrew at most once.** -/
theorem asksOnce_install (w : Surroundings) {a : CommandLine.Arguments}
    (hdry : a.dryRun = true) : (Run.install w a).AsksOnce a.force := by
  refine (composed_ofExcept _).silent.bind fun root =>
    (composed_load trivial).silent.bind fun settings =>
      (composed_log _ _ _).silent.bind fun _ => AsksOnce.withDirectory fun scratch => ?_
  refine (composed_tell _).silent.bind fun _ => AsksOnce.bind ?_ fun _ => (composed_tell _).silent
  have hinterpreter : ∀ ctx : Context, ctx.config.dryRun = true →
      (Sequence.interpreter ctx).Silent := by
    intro ctx hctx
    refine Composed.silent (composed_interpreter ctx fun hreal => ?_)
    rw [hctx] at hreal
    cases hreal
  rw [Sequence.install_eq]
  -- Only the JDK step asks; all before it and all after it is silent.
  refine (composed_log _ _ _).silent.bind fun _ => (hinterpreter _ hdry).bind fun _ =>
    (composed_prepare _).silent.bind fun _ =>
      ((composed_developerTools _).when _).silent.bind fun _ =>
        (asksOnce_jdk _).bind fun _ => (composed_packages _ _ _ _).silent

/-- **A dry run of the program asks one question at most.** -/
theorem asksOnce_program (w : Surroundings) {a : CommandLine.Arguments}
    (hdry : a.dryRun = true) : (Run.program w a).AsksOnce a.force := by
  refine (composed_log _ _ _).silent.bind fun _ =>
    (asksOnce_install w hdry).attempt.bind fun result => ?_
  refine Composed.silent ?_
  cases result with
  | ok u => exact .done _
  | error f => exact (composed_tell _).andThen (.done _)

/-! ## §3. A session. -/

/-- What reaches a host through the layer of a run. -/
theorem perform_layer_observed {σ α : Type} (a : CommandLine.Arguments) (host : Host σ)
    (p : Procedure α) (s : σ) (E : Account) :
    p.perform (Run.layer a (observed host)) (s, E)
      = ((p.perform (Run.layer a host) s).1, ((p.perform (Run.layer a host) s).2,
          E ++ (p.account (Run.layer a host) s).flatMap
            (if a.dryRun then Exchange.rehearsed else Exchange.announced))) := by
  unfold Run.layer
  cases a.dryRun with
  | true => exact perform_through _ _ (rehearsing_observed host) p s E
  | false => exact perform_through _ _ (announcing_observed host) p s E

namespace Session

/-- The machine with the output and the log of a run. -/
def machine (m : Machine) (w : Surroundings) (a : CommandLine.Arguments) : Machine :=
  { m with output := output w a, log := log w a }

/-- What reaches the machine in a session; nothing does where the command line
starts no run. -/
def account (m : Machine) (w : Surroundings) (words : List String) (s : MachineState) :
    Account :=
  match CommandLine.read w.valueOf words with
  | .error _ => []
  | .ok a => ((Run.program w a).perform (Run.layer a (observed (machine m w a).host)) (s, [])).2.2

/-- The account is that of the session itself: the files and streams that it
leaves are those of the run that is observed. -/
theorem start_account {m : Machine} {w : Surroundings} {words : List String}
    {s : MachineState} {a : CommandLine.Arguments}
    (h : CommandLine.read w.valueOf words = .ok a) :
    ((Run.program w a).perform (Run.layer a (observed (machine m w a).host)) (s, [])).2
      = ((start m w words s).2, account m w words s) := by
  unfold start account
  rw [h]
  dsimp only
  rw [perform_layer_observed]
  rfl

end Session

/-- Below a rehearsing layer the runner is called for captured commands only. -/
theorem runnerCalls_rehearsed (T : Account) :
    Account.runnerCalls (T.flatMap Exchange.rehearsed) = T.captured.map Request.capture := by
  induction T with
  | nil => rfl
  | cons e T ih =>
      rw [List.flatMap_cons, Account.runnerCalls_append, ih]
      obtain ⟨q, x⟩ := e
      cases q <;> rfl

/-- Below a rehearsing layer nothing is fetched. -/
theorem fetch_rehearsed {T : Account} {e : Exchange} (h : e ∈ T.flatMap Exchange.rehearsed)
    (url : String) : e.request ≠ .fetch url := by
  obtain ⟨d, -, he⟩ := List.mem_flatMap.mp h
  obtain ⟨q, x⟩ := d
  cases q <;> (rw [List.mem_singleton.mp he]; exact fun h => by cases h)

theorem locate_rehearsed {T : Account} {tool : String} {x : Option Path}
    (h : ⟨.locate tool, x⟩ ∈ T) : ⟨.locate tool, x⟩ ∈ T.flatMap Exchange.rehearsed :=
  List.mem_flatMap.mpr ⟨_, h, List.mem_singleton.mpr rfl⟩

/-- **A dry run starts nothing but one question, and changes nothing.**  No
command is run and nothing is downloaded; Homebrew may be asked for its
version once, on macOS, where the compiler is missing or installed again; and
in the end the files are what they were. -/
theorem start_dryRun (m : Machine) (w : Surroundings) (words : List String) (s : MachineState)
    (hdry : "--dry-run" ∈ words) (hrooted : s.files.Rooted)
    (hbrew : ∀ t, (m.capture ⟨"brew", ["--version"], none⟩ t).2.files = t.files) :
    (Session.start m w words s).2.files = s.files
      ∧ (∀ e ∈ Session.account m w words s, ∀ url, e.request ≠ .fetch url)
      ∧ ((Session.account m w words s).runnerCalls = []
        ∨ ∃ a, CommandLine.read w.valueOf words = .ok a
            ∧ (Session.account m w words s).runnerCalls
                = [.capture ⟨"brew", ["--version"], none⟩]
            ∧ a.targetOs w.os = .macOS
            ∧ (a.force = true ∨ ⟨.locate "javac", none⟩ ∈ Session.account m w words s)) := by
  cases hread : CommandLine.read w.valueOf words with
  | error r =>
      -- Only the refusal is printed.
      have haccount : Session.account m w words s = [] := by
        unfold Session.account
        rw [hread]
      refine ⟨?_, ?_, .inl (by rw [haccount]; rfl)⟩
      · unfold Session.start
        rw [hread]
        exact print_files s _
      · rw [haccount]
        exact fun e he => absurd he List.not_mem_nil
  | ok a =>
      have hflag : a.dryRun = true := CommandLine.read_flag (f := .dryRun) hread hdry
      -- The question is for Homebrew, and is put on macOS only.
      have htidy : (Run.program w a).Tidy fun c =>
          c = ToolVersion.question "brew" ∧ a.targetOs w.os = .macOS :=
        tidy_program w hflag fun hos => ⟨rfl, hos⟩
      have hrun := Session.start_account (m := m) (s := s) hread
      rw [perform_layer_observed] at hrun
      unfold Run.layer at hrun
      simp only [hflag, if_true] at hrun
      obtain ⟨hstate, haccount⟩ := Prod.mk.inj hrun
      rw [List.nil_append] at haccount
      have hfiles := htidy.restores (m := Session.machine m w a)
        (fun c hc t => by rw [hc.1]; exact hbrew t) s hrooted
      have hleads := leads_account (rehearsing (Session.machine m w a).host) (Run.program w a) s
      rw [← hstate, ← haccount]
      refine ⟨hfiles, fun e he => fetch_rehearsed he, ?_⟩
      rw [runnerCalls_rehearsed]
      rcases asksOnce_program w hflag _ _ hleads with hnone | ⟨hone, hwhy⟩
      · rw [hnone]
        exact .inl rfl
      · rw [hone]
        have hmem : ToolVersion.question "brew" ∈ Account.captured ((Run.program w a).account
            (rehearsing (Session.machine m w a).host) s) := by
          rw [hone]
          exact List.mem_singleton.mpr rfl
        obtain ⟨e, he, hasked⟩ := List.mem_filterMap.mp hmem
        obtain ⟨q, x⟩ := e
        cases q with
        | capture c =>
            exact .inr ⟨a, rfl, rfl, (htidy.captured hleads he).2,
              hwhy.imp_right locate_rehearsed⟩
        | _ => cases hasked

/-- Scripts alone change no file. -/
theorem capture_files_of_no_tools {m : Machine} (h : m.tools = []) (c : Command)
    (s : MachineState) : (m.capture c s).2.files = s.files := by
  unfold Machine.capture
  split
  · rfl
  · rename_i o calls hprocess
    show o.files = s.files
    unfold Machine.process at hprocess
    obtain ⟨cwd, -, hprocess⟩ := CommandLine.exists_ok_of_bind hprocess
    obtain ⟨⟨place, content⟩, -, hprocess⟩ := CommandLine.exists_ok_of_bind hprocess
    rw [h] at hprocess
    dsimp only [List.lookup_nil] at hprocess
    split at hprocess
    · injection hprocess with hprocess
      injection hprocess with ho
      rw [← ho]
    · cases hprocess

/-- A machine without tools, with one directory. -/
def bareMachine : Machine := { middles := ["Xy3"] }

def bareState : MachineState := { files := ⟨[(["tmp"], .directory 0o777)]⟩ }

/-- A forced dry run for macOS leaves that directory as it is. -/
theorem start_dryRun_bare :
    (Session.start bareMachine { directory := ⟨"/"⟩ } ["--dry-run", "--platform=macos", "--force"]
        bareState).2.files = bareState.files
      ∧ ∀ e ∈ Session.account bareMachine { directory := ⟨"/"⟩ }
          ["--dry-run", "--platform=macos", "--force"] bareState,
        ∀ url, e.request ≠ .fetch url := by
  have h := start_dryRun bareMachine { directory := ⟨"/"⟩ }
    ["--dry-run", "--platform=macos", "--force"] bareState (List.mem_cons_self ..)
    (fun p hp => ⟨0o755, by rw [List.mem_singleton.mp hp]; rfl⟩)
    (capture_files_of_no_tools rfl _)
  exact ⟨h.1, h.2.1⟩

end Provision
