/-
  Provision.Proofs.UnsupportedPair
  ────────────────────────────────
  **AN ACCELERATOR WITHOUT A BUILD.**

  The package step refuses an accelerator that has no build on the system, and
  it is the last step.  So such an installation never succeeds; but the steps
  before it have run by then, and what they run depends on the environment, on
  the compiler that is there and on whether tools are installed again.

  Main results:

    `fails_install`        such an installation never succeeds
    `idle_install`         where it runs nothing whatever the host answers
    `install_unsupported`  and that it runs something everywhere else
-/
import Provision.Host.Script
import Provision.Proofs.Plan

namespace Provision

open Procedure

/-! ## §1. Procedures that never succeed, and procedures that run nothing. -/

namespace Procedure

variable {σ α β : Type} {known : String → Option Path}

/-- Whatever is answered, the end is a failure. -/
def Fails (p : Procedure α) : Prop := ∀ E r, p.Leads E r → ∃ e, r = .error e

/-- No command is run where the search path holds the known tools. -/
def Idle (known : String → Option Path) (p : Procedure α) : Prop :=
  ∀ E r, Account.Probed known E → p.Leads E r → E.commands = []

/-- What fails at its end fails as a whole. -/
theorem Fails.after {f : α → Procedure β} (hf : ∀ a, (f a).Fails) (p : Procedure α) :
    (p.bind f).Fails := by
  intro E r h
  rcases leads_bind.mp h with ⟨e, -, rfl⟩ | ⟨a, E₁, E₂, rfl, -, h₂⟩
  · exact ⟨e, rfl⟩
  · exact hf a E₂ r h₂

/-- What is done runs nothing. -/
theorem idle_done (a : α) : (Procedure.done a).Idle known := by
  intro E r _ h
  obtain ⟨rfl, -⟩ := leads_done.mp h
  rfl

theorem idle_fail (e : Failure) : (Procedure.fail e : Procedure α).Idle known := by
  intro E r _ h
  obtain ⟨rfl, -⟩ := leads_fail.mp h
  rfl

/-- A sequence runs nothing, if none of its parts does. -/
theorem Idle.bind {p : Procedure α} {f : α → Procedure β} (hp : p.Idle known)
    (hf : ∀ a, (f a).Idle known) : (p.bind f).Idle known := by
  intro E r hE h
  rcases leads_bind.mp h with ⟨e, he, -⟩ | ⟨a, E₁, E₂, rfl, h₁, h₂⟩
  · exact hp E _ hE he
  · obtain ⟨hE₁, hE₂⟩ := probed_append hE
    rw [Account.commands_append, hp E₁ _ hE₁ h₁, hf a E₂ r hE₂ h₂, List.append_nil]

/-- A look at the search path finds what is known. -/
theorem idle_locate {tool : String} {f : Option Path → Procedure β}
    (hf : (f (known tool)).Idle known) : ((locate tool).bind f).Idle known := by
  intro E r hE h
  obtain ⟨x, F, rfl, hk⟩ := leads_ask.mp h
  have hx : x = known tool := hE tool x (List.mem_cons_self ..)
  rw [hx] at hk
  exact hf F r (fun tool y hy => hE tool y (List.mem_cons_of_mem _ hy)) hk

/-- A notice runs nothing. -/
theorem idle_tell (n : Notice) : (tell n).Idle known := by
  intro E r _ h
  obtain ⟨x, F, rfl, hk⟩ := leads_ask.mp h
  obtain ⟨rfl, -⟩ := leads_done.mp hk
  rfl

theorem idle_log (level : LogLevel) (source : LogSource) (text : String) :
    (log level source text).Idle known := by
  intro E r _ h
  obtain ⟨x, F, rfl, hk⟩ := leads_ask.mp h
  obtain ⟨rfl, -⟩ := leads_done.mp hk
  rfl

/-- A captured command is none that is run. -/
theorem idle_capture (c : Command) : (capture c).Idle known := by
  intro E r _ h
  obtain ⟨x, F, rfl, hk⟩ := leads_ask.mp h
  obtain ⟨rfl, -⟩ := leads_done.mp hk
  rfl

end Procedure

/-! ## §2. Where nothing is run. -/

section Idle

variable {ctx : Context} {known : String → Option Path}

/-- **An installation for an unsupported pair never succeeds.** -/
theorem fails_install {e : Failure}
    (h : PythonPackages.unsupported? ctx.target.os ctx.config.accelerator = some e) :
    (Sequence.install ctx).Fails := by
  have hpackages : (PythonPackages.install ctx ctx.config.accelerator
      ctx.config.requirementsPath ctx.config.nightly).Fails := by
    intro E r hleads
    unfold PythonPackages.install at hleads
    rw [PythonPackages.installFor_unsupported h] at hleads
    exact ⟨e, (leads_fail.mp hleads).2⟩
  rw [Sequence.install_eq]
  unfold Sequence.steps
  exact .after (fun _ => .after (fun _ => .after (fun _ => .after (fun _ =>
    .after (fun _ => hpackages) _) _) _) _) _

/-- A version probe is captured, and so runs nothing. -/
theorem idle_ask (c : Command) (p : Pattern) : (ToolVersion.ask c p).Idle known := by
  refine (idle_capture c).bind fun answer => ?_
  cases answer with
  | error e => exact idle_done _
  | ok r =>
      show (if r.succeeded then _ else _ : Procedure _).Idle known
      split
      · exact idle_done _
      · exact (idle_log _ _ _).bind fun _ => idle_done _

/-- **The check of the interpreter runs nothing**, whatever its outcome. -/
theorem idle_interpreter : (Sequence.interpreter ctx).Idle known := by
  unfold Sequence.interpreter
  split
  · exact idle_log _ _ _
  · have hpython : (ToolVersion.python ctx.settings.python).Idle known :=
      (idle_ask _ _).bind fun _ => idle_done _
    refine hpython.bind fun found => ?_
    cases found with
    | none => exact idle_fail _
    | some release =>
        show (if release.atLeast Sequence.oldestPython then _ else _ : Procedure _).Idle known
        split
        · exact idle_log _ _ _
        · exact idle_fail _

/-- On Windows the JDK step runs nothing. -/
theorem idle_requireJdk : (Prerequisites.requireJdk ctx).Idle known := by
  refine idle_locate ?_
  cases known Prerequisite.javaCompiler.binary with
  | none => exact idle_fail _
  | some path =>
      show (if ctx.config.force then _ else _ : Procedure _).Idle known
      split
      · exact idle_tell _
      · exact idle_done _

/-- A tool that is there is left alone unless the run installs again. -/
theorem idle_whenNeeded {kind : Prerequisite} {install : Procedure Unit}
    (hthere : (known kind.binary).isSome) (hforce : ctx.config.force = false) :
    (ctx.whenNeeded kind install).Idle known := by
  intro E r hE h
  have hskip : (ctx.needsInstall kind).Idle known := by
    refine idle_locate ?_
    obtain ⟨path, hpath⟩ := Option.isSome_iff_exists.mp hthere
    rw [hpath]
    show (if ctx.config.force then _ else _ : Procedure _).Idle known
    rw [hforce]
    exact (idle_tell _).bind fun _ => idle_done _
  rw [Context.whenNeeded_eq] at h
  rcases leads_bind.mp h with ⟨e, he, -⟩ | ⟨needed, E₁, E₂, rfl, h₁, h₂⟩
  · exact hskip E _ hE he
  · obtain ⟨hE₁, hE₂⟩ := probed_append hE
    have hneeded := (leads_needsInstall hE₁ h₁).1
    rw [Plan.needs, hforce, Known, hthere] at hneeded
    rw [Account.commands_append, hskip E₁ _ hE₁ h₁, List.nil_append]
    subst hneeded
    exact idle_done () E₂ r hE₂ h₂

/-- **A production host runs nothing for an unsupported pair** where no JDK has
to be installed for it. -/
theorem idle_install {e : Failure}
    (h : PythonPackages.unsupported? ctx.target.os ctx.config.accelerator = some e)
    (henv : ctx.config.environment = .production)
    (hjdk : ctx.target.os = .windows
      ∨ ((known "javac").isSome ∧ ctx.config.force = false)) :
    (Sequence.install ctx).Idle known := by
  have hdev : ctx.config.isDev = false := InstallConfig.isDev_eq henv
  have hlinux : (ctx.target.os == .linux) = false := by
    cases hos : ctx.target.os with
    | linux =>
        rw [hos] at h
        cases h
    | windows => rfl
    | macOS => rfl
  have hcompiler : (Prerequisites.ensure ctx .javaCompiler).Idle known := by
    unfold Prerequisites.ensure
    rcases hjdk with hos | ⟨hthere, hforce⟩
    · rw [hos]
      exact idle_requireJdk
    · cases ctx.target.os with
      | linux => exact idle_whenNeeded hthere hforce
      | windows => exact idle_requireJdk
      | macOS => exact idle_whenNeeded hthere hforce
  rw [Sequence.install_eq]
  unfold Sequence.steps PythonPackages.install
  rw [PythonPackages.installFor_unsupported h, Sequence.prepare_eq, hlinux, hdev]
  exact (idle_log _ _ _).bind fun _ => idle_interpreter.bind fun _ =>
    (idle_done ()).bind fun _ => (idle_done ()).bind fun _ =>
      hcompiler.bind fun _ => idle_fail e

end Idle

/-! ## §3. A host on which everything succeeds. -/

/-- What every tool of the host answers. -/
def releases : Captured := .success "Homebrew 4.2\nPython 3.11" ""

/-- The host with the known tools on which every command succeeds. -/
def obliging (known : String → Option Path) : Host Unit
  | .run _, _ => (.ok (), ())
  | .capture _, _ => (.ok releases, ())
  | .fetch _, _ => (.ok ByteArray.empty, ())
  | .locate tool, _ => (known tool, ())
  | .createFile parent .., _ => (.ok parent, ())
  | .createDirectory parent _, _ => (.ok parent, ())
  | .discard _, _ => ((), ())
  | .doesExist _, _ => (false, ())
  | .read _, _ => (.ok ByteArray.empty, ())
  | .tell _, _ => ((), ())
  | .log _, _ => ((), ())

namespace Procedure

variable {α β : Type} {known : String → Option Path}

/-- On the obliging host it succeeds. -/
def Succeeds (known : String → Option Path) (p : Procedure α) : Prop :=
  ∃ a, p.perform (obliging known) () = (.ok a, ())

/-- On the obliging host it runs a command. -/
def Runs (known : String → Option Path) (p : Procedure α) : Prop :=
  (p.account (obliging known) ()).commands ≠ []

theorem succeeds_tell (n : Notice) : (tell n).Succeeds known := ⟨(), rfl⟩

theorem succeeds_log (level : LogLevel) (source : LogSource) (text : String) :
    (log level source text).Succeeds known := ⟨(), rfl⟩

/-- A command that is run succeeds here. -/
theorem succeeds_run (c : Command) : (run c).Succeeds known := ⟨(), rfl⟩

/-- A sequence succeeds, if all of its parts do. -/
theorem Succeeds.bind {p : Procedure α} {f : α → Procedure β} (hp : p.Succeeds known)
    (hf : ∀ a, (f a).Succeeds known) : (p.bind f).Succeeds known := by
  obtain ⟨a, ha⟩ := hp
  obtain ⟨b, hb⟩ := hf a
  refine ⟨b, ?_⟩
  rw [perform_bind, ha]
  exact hb

/-- A step on a condition succeeds, if the step does. -/
theorem Succeeds.when {p : Procedure Unit} (h : p.Succeeds known) (c : Bool) :
    (when c p).Succeeds known := by
  cases c with
  | false => exact ⟨(), rfl⟩
  | true => exact h

theorem runs_run (c : Command) : (run c).Runs known := List.cons_ne_nil c []

/-- A command in the first part is run. -/
theorem Runs.before {p : Procedure α} (hp : p.Runs known) (f : α → Procedure β) :
    (p.bind f).Runs known := by
  unfold Runs
  rw [account_bind, Account.commands_append]
  exact List.append_ne_nil_of_left_ne_nil hp _

/-- A command in the second part is run if the first one succeeds. -/
theorem Runs.after {p : Procedure α} {f : α → Procedure β} (hp : p.Succeeds known)
    (hf : ∀ a, (f a).Runs known) : (p.bind f).Runs known := by
  obtain ⟨a, ha⟩ := hp
  unfold Runs
  rw [account_bind, Account.commands_append, ha]
  exact List.append_ne_nil_of_right_ne_nil _ (hf a)

end Procedure

/-! ## §4. Where something is run. -/

section Runs

variable {ctx : Context} {known : String → Option Path}

/-- The interpreter is recent enough here. -/
theorem succeeds_interpreter : (Sequence.interpreter ctx).Succeeds known := by
  have hrelease : ((releases.firstGroup? ToolVersion.pythonPattern).bind
      ToolVersion.Release.ofText?) = some ⟨3, 11⟩ := by decide +kernel
  unfold Sequence.interpreter
  split
  · exact succeeds_log _ _ _
  · have hpython : (ToolVersion.python ctx.settings.python).perform (obliging known) ()
        = (.ok (some ⟨3, 11⟩), ()) := by
      rw [← hrelease]
      rfl
    refine ⟨(), ?_⟩
    show ((ToolVersion.python ctx.settings.python).bind _).perform (obliging known) () = _
    rw [perform_bind, hpython]
    rfl

/-- What is installed already is known. -/
theorem perform_needsInstall (kind : Prerequisite) :
    (ctx.needsInstall kind).perform (obliging known) ()
      = (.ok (Plan.needs ctx (Known known) kind.binary), ()) := by
  have hlocate : (Procedure.locate kind.binary).perform (obliging known) ()
      = (.ok (known kind.binary), ()) := rfl
  unfold Context.needsInstall Plan.needs Known
  rw [Procedure.bind_eq, Procedure.perform_bind, hlocate]
  cases known kind.binary with
  | none => cases ctx.config.force <;> rfl
  | some path => cases ctx.config.force <;> rfl

/-- A tool that is needed is installed here, and one that is not is left alone. -/
theorem succeeds_whenNeeded {kind : Prerequisite} {install : Procedure Unit}
    (h : install.Succeeds known) : (ctx.whenNeeded kind install).Succeeds known := by
  have hneeds : (ctx.needsInstall kind).Succeeds known := ⟨_, perform_needsInstall kind⟩
  rw [Context.whenNeeded_eq]
  exact hneeds.bind fun needed => h.when needed

/-- The download utility is no obstacle. -/
theorem succeeds_downloadUtility (h : ctx.target.os ≠ .linux) :
    (Prerequisites.ensure ctx .downloadUtility).Succeeds known := by
  unfold Prerequisites.ensure
  cases hos : ctx.target.os with
  | linux => exact absurd hos h
  | windows => exact succeeds_log _ _ _
  | macOS => exact succeeds_whenNeeded ((succeeds_tell _).bind fun _ => succeeds_run _)

/-- Node.js is no obstacle. -/
theorem succeeds_node (h : ctx.target.os ≠ .linux) :
    (NodeJs.install ctx).Succeeds known := by
  unfold NodeJs.install
  cases hos : ctx.target.os with
  | linux => exact absurd hos h
  | windows => exact succeeds_log _ _ _
  | macOS =>
      show (NodeJs.relinkFormula ctx).Succeeds known
      rw [NodeJs.relinkFormula_eq]
      have hunlink : NodeJs.unlinkPresent.Succeeds known :=
        Succeeds.bind ⟨known "node", rfl⟩ fun found => (succeeds_run _).when found.isSome
      exact (succeeds_tell _).bind fun _ => hunlink.bind fun _ =>
        (succeeds_run _).bind fun _ => succeeds_run _

/-- A developer's host runs at least the command for the npm tools. -/
theorem runs_developerTools (h : ctx.target.os ≠ .linux) :
    (Sequence.developerTools ctx).Runs known := by
  rw [Sequence.developerTools_eq]
  exact .after (succeeds_downloadUtility h) fun _ => .after (succeeds_node h) fun _ =>
    Runs.before (.after (succeeds_tell _) fun _ => runs_run _) _

/-- On macOS a JDK that is missing, or installed again, takes a command. -/
theorem runs_jdk (hos : ctx.target.os = .macOS)
    (hneeds : Plan.needs ctx (Known known) "javac" = true) :
    (Prerequisites.ensure ctx .javaCompiler).Runs known := by
  have hversion : releases.firstGroup? ToolVersion.homebrewPattern = some "4.2" := by
    decide +kernel
  have hbrew : ToolVersion.homebrew.perform (obliging known) () = (.ok "4.2", ()) := by
    rw [show ("4.2" : String) = (some "4.2").getD ToolVersion.notAvailable from rfl, ← hversion]
    rfl
  have hneeded : (ctx.needsInstall .javaCompiler).perform (obliging known) ()
      = (.ok true, ()) := by
    rw [perform_needsInstall]
    exact congrArg (fun b => (Except.ok b, ())) hneeds
  unfold Prerequisites.ensure
  rw [hos]
  show (ctx.whenNeeded .javaCompiler _).Runs known
  rw [Context.whenNeeded_eq]
  unfold Runs
  rw [account_bind, hneeded, Account.commands_append]
  refine List.append_ne_nil_of_right_ne_nil _ ?_
  show Account.commands ((ToolVersion.homebrew.bind _).account (obliging known) ()) ≠ []
  rw [account_bind, hbrew, Account.commands_append]
  exact List.append_ne_nil_of_right_ne_nil _ (List.cons_ne_nil _ _)

/-- **An unsupported accelerator is refused too late.**  The installation never
succeeds; but it runs nothing, whatever the host answers, only in production,
and there only on Windows or where the compiler is there and not installed
again.  Everywhere else a host on which all goes well has been changed before
the refusal. -/
theorem install_unsupported (ctx : Context) (known : String → Option Path)
    (hpair : (ctx.target.os = .macOS ∧ ctx.config.accelerator.isSome)
      ∨ (ctx.target.os = .windows ∧ ctx.config.accelerator = some .cu92)) :
    (∀ (σ : Type) (host : Host σ) (s : σ),
        ∃ e, ((Sequence.install ctx).perform host s).1 = .error e)
      ∧ ((∀ (σ : Type) (host : Host σ) (s : σ),
            (∀ tool t, (host (.locate tool) t).1 = known tool) →
            ((Sequence.install ctx).account host s).commands = [])
          ↔ ctx.config.environment = .production
            ∧ (ctx.target.os = .windows
              ∨ ((known "javac").isSome ∧ ctx.config.force = false))) := by
  obtain ⟨e, he⟩ : ∃ e,
      PythonPackages.unsupported? ctx.target.os ctx.config.accelerator = some e := by
    rw [← Option.ne_none_iff_exists']
    intro hnone
    obtain ⟨hmac, hwindows⟩ := (PythonPackages.unsupported?_eq_none _ _).mp hnone
    exact hpair.elim hmac hwindows
  have hlinux : ctx.target.os ≠ .linux := by
    intro hos
    rw [hos] at he
    cases he
  refine ⟨fun σ host s => fails_install he _ _ (leads_account host _ s), ?_, ?_⟩
  · intro hnothing
    -- On the obliging host the steps before the refusal go through.
    have hobliging := hnothing Unit (obliging known) () fun _ _ => rfl
    have hprepare : (Sequence.prepare ctx).Succeeds known := by
      rw [Sequence.prepare_eq]
      exact ((succeeds_tell _).bind fun _ => succeeds_run _).when _
    have hinstall : (Sequence.steps ctx).Runs known → False := by
      intro hsteps
      refine absurd hobliging ?_
      rw [Sequence.install_eq]
      exact Runs.after (succeeds_log _ _ _) fun _ =>
        .after succeeds_interpreter fun _ => hsteps
    have henv : ctx.config.environment = .production := by
      cases henv : ctx.config.environment with
      | production => rfl
      | developer =>
          have hdev : ctx.config.isDev = true := InstallConfig.isDev_eq henv
          refine (hinstall ?_).elim
          unfold Sequence.steps
          rw [hdev]
          exact .after hprepare fun _ => Runs.before (runs_developerTools hlinux) _
    refine ⟨henv, ?_⟩
    by_cases hos : ctx.target.os = .windows
    · exact .inl hos
    · refine .inr ?_
      have hmac : ctx.target.os = .macOS := by
        cases h : ctx.target.os with
        | linux => exact absurd h hlinux
        | windows => exact absurd h hos
        | macOS => rfl
      have hdev : ctx.config.isDev = false := InstallConfig.isDev_eq henv
      have hnone : Plan.needs ctx (Known known) "javac" = false := by
        cases hneeds : Plan.needs ctx (Known known) "javac" with
        | false => rfl
        | true =>
            refine (hinstall ?_).elim
            unfold Sequence.steps
            rw [hdev]
            exact .after hprepare fun _ => .after ⟨(), rfl⟩ fun _ =>
              Runs.before (runs_jdk hmac hneeds) _
      unfold Plan.needs Known at hnone
      rw [Bool.or_eq_false_iff, Bool.not_eq_false'] at hnone
      exact ⟨hnone.2, hnone.1⟩
  · rintro ⟨henv, hjdk⟩ σ host s hknown
    exact idle_install he henv hjdk _ _ (probed_account hknown _ s) (leads_account host _ s)

end Runs

/-- A production run for macOS with an accelerator. -/
def acceleratedMac : Context where
  target := ⟨.macOS, none⟩
  config := { projectRoot := ⟨"/srv/serve"⟩, accelerator := some .cu116, dryRun := true }
  settings := {}
  scratch := ⟨"/tmp/servedeps-x"⟩

/-- A host with these tools and with Homebrew. -/
def hostWith (present : List String) : Script where
  present := present
  tools := [("brew", { stdout := "Homebrew 4.2.5\n" })]

/-- With the compiler there, the run fails before it has run anything. -/
theorem install_unsupported_compiler :
    (acceleratedMac.target.os = .macOS ∧ acceleratedMac.config.accelerator.isSome)
      ∧ (∃ e, ((Sequence.install acceleratedMac).perform (hostWith ["javac"]).host {}).1
          = .error e)
      ∧ ((Sequence.install acceleratedMac).account (hostWith ["javac"]).host {}).commands
          = [] := by
  have h := install_unsupported acceleratedMac (locateAmong ["javac"]) (.inl ⟨rfl, rfl⟩)
  exact ⟨⟨rfl, rfl⟩, h.1 _ _ _, h.2.mpr ⟨rfl, .inr ⟨rfl, rfl⟩⟩ _ _ _ fun _ _ => rfl⟩

/-- **The refusal comes after a command**: on a production host without a
compiler the JDK is installed before the accelerator is refused. -/
theorem install_refused_late :
    (acceleratedMac.target.os = .macOS ∧ acceleratedMac.config.accelerator.isSome)
      ∧ ((Sequence.install acceleratedMac).account (hostWith []).host {}).commands
          = [⟨"brew", ["install", "openjdk@17"], none⟩] := by
  refine ⟨⟨rfl, rfl⟩, ?_⟩
  decide +kernel

end Provision
