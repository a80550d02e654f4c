/-
  Provision.Proofs.Composed
  ─────────────────────────
  **HOW A RUN IS PUT TOGETHER.**

  Every step is put together from a few parts: requests that only look or
  tell, commands that are run or captured, downloads, and bodies around which
  a file or a directory exists.  What holds of these parts, and goes over to a
  sequence, holds of every step, and is proved without a look at the steps.
  Which commands may be captured and which files may be looked at are
  parameters.

  Main results:

    `composed_steps`      the steps, which capture Homebrew on macOS only
    `composed_install`    the whole installation
    `composed_run`        a run with its settings and its scratch directory
    `Composed.looks`      only those files are looked at
    `Asks.perform_eq`     hosts that agree on what is asked perform alike
-/
import Provision.Proofs.Parts
import Provision.Run

namespace Provision

/-! ## §1. The parts. -/

/-- Does the request only look at the host, or tell something? -/
def Request.isPassive : Request → Bool
  | .locate _ => true
  | .doesExist _ => true
  | .read _ => true
  | .tell _ => true
  | .log _ => true
  | _ => false

/-- The file that the request looks at. -/
def Request.file? : Request → Option Path
  | .doesExist path => some path
  | .read path => some path
  | _ => none

namespace Procedure

/-- Put together from the parts of a run; only commands with `P` are captured,
and only files with `Q` are looked at. -/
inductive Composed (P : Command → Prop) (Q : Path → Prop) : {α : Type} → Procedure α → Prop
  | done {α : Type} (a : α) : Composed P Q (.done a)
  | fail {α : Type} (e : Failure) : Composed P Q (.fail e : Procedure α)
  | passive {α : Type} {r : Request} {k : r.Answer → Procedure α} (hr : r.isPassive = true)
      (hq : ∀ path, r.file? = some path → Q path) (hk : ∀ x, Composed P Q (k x)) :
      Composed P Q (.ask r k)
  | run (c : Command) : Composed P Q (run c)
  | capture {c : Command} (hc : P c) : Composed P Q (capture c)
  | download (url : String) : Composed P Q (NodeJs.download url)
  | bind {α β : Type} {p : Procedure α} {f : α → Procedure β} (hp : Composed P Q p)
      (hf : ∀ a, Composed P Q (f a)) : Composed P Q (p.bind f)
  | withFile {α : Type} {parent : Path} {before after : String} {content : ByteArray}
      {body : Path → Procedure α} (hb : ∀ path, Composed P Q (body path)) :
      Composed P Q (withFile parent before after content body)
  | withDirectory {α : Type} {parent : Path} {before : String} {body : Path → Procedure α}
      (hb : ∀ path, Composed P Q (body path)) :
      Composed P Q (withDirectory parent before body)

variable {α β : Type} {P : Command → Prop} {Q : Path → Prop}

/-- What is known before anything is asked makes no request. -/
theorem composed_ofExcept (x : Except Failure α) : (ofExcept x).Composed P Q := by
  cases x with
  | ok a => exact .done a
  | error e => exact .fail e

/-- A look at the search path looks at no file. -/
theorem composed_locate (tool : String) : (locate tool).Composed P Q :=
  .passive rfl (fun _ h => by cases h) .done

/-- Whether a file exists is asked of permitted files only. -/
theorem composed_doesExist {path : Path} (h : Q path) : (doesExist path).Composed P Q :=
  .passive rfl (fun _ hfile => by cases hfile; exact h) .done

/-- Only permitted files are read. -/
theorem composed_read {path : Path} (h : Q path) : (read path).Composed P Q :=
  .passive rfl (fun _ hfile => by cases hfile; exact h) composed_ofExcept

/-- A notice is a request without an answer. -/
theorem composed_tell (n : Notice) : (tell n).Composed P Q :=
  .passive rfl (fun _ h => by cases h) .done

theorem composed_step (text : String) : (step text).Composed P Q := composed_tell _

theorem composed_log (level : LogLevel) (source : LogSource) (text : String) :
    (log level source text).Composed P Q := .passive rfl (fun _ h => by cases h) .done

/-- What follows a part without a result does not depend on it. -/
theorem Composed.andThen {p : Procedure Unit} {q : Procedure β} (hp : p.Composed P Q)
    (hq : q.Composed P Q) : (p.bind fun _ => q).Composed P Q := .bind hp fun _ => hq

/-- A step on a condition is put together from what the step is. -/
theorem Composed.when {p : Procedure Unit} (h : p.Composed P Q) (c : Bool) :
    (when c p).Composed P Q := by
  cases c with
  | false => exact .done ()
  | true => exact h

/-- A list of commands is a sequence of runs. -/
theorem composed_forM_run (cs : List Command) : (cs.forM Procedure.run).Composed P Q := by
  induction cs with
  | nil => exact .done ()
  | cons c cs ih => exact (Composed.run c).andThen ih

/-! ## §2. What is asked of a host. -/

/-- Whatever the answers are, only requests with `R` are made. -/
def Asks (R : Request → Prop) (p : Procedure α) : Prop :=
  ∀ E r, p.Leads E r → ∀ e ∈ E, R e.request

variable {R : Request → Prop}

theorem asks_done (a : α) : (Procedure.done a).Asks R := by
  intro E r hleads e he
  obtain ⟨rfl, -⟩ := leads_done.mp hleads
  cases he

theorem asks_fail (f : Failure) : (Procedure.fail f : Procedure α).Asks R := by
  intro E r hleads e he
  obtain ⟨rfl, -⟩ := leads_fail.mp hleads
  cases he

theorem asks_ofExcept (x : Except Failure α) : (ofExcept x).Asks R := by
  cases x with
  | ok a => exact asks_done a
  | error e => exact asks_fail e

/-- A request that is allowed, and whatever follows any of its answers. -/
theorem asks_ask {q : Request} {k : q.Answer → Procedure α} (hq : R q)
    (hk : ∀ x, (k x).Asks R) : (Procedure.ask q k).Asks R := by
  intro E r hleads e he
  obtain ⟨x, F, rfl, hF⟩ := leads_ask.mp hleads
  rcases List.mem_cons.mp he with rfl | he
  · exact hq
  · exact hk x F r hF e he

/-- A sequence asks for no more than its parts. -/
theorem Asks.bind {p : Procedure α} {f : α → Procedure β} (hp : p.Asks R)
    (hf : ∀ a, (f a).Asks R) : (p.bind f).Asks R := by
  intro E r hleads e he
  rcases leads_bind.mp hleads with ⟨f, hfail, -⟩ | ⟨a, E₁, E₂, rfl, h₁, h₂⟩
  · exact hp E _ hfail e he
  · rcases List.mem_append.mp he with he | he
    · exact hp E₁ _ h₁ e he
    · exact hf a E₂ r h₂ e he

/-- Clean-up adds a single request, to discard. -/
theorem Asks.withCleanUp {p : Procedure α} {path : Path} (hp : p.Asks R)
    (hd : R (.discard path)) : (p.withCleanUp (discard path)).Asks R := by
  intro E r hleads e he
  obtain ⟨F, rfl, hF⟩ := leads_withCleanUp.mp hleads
  rcases List.mem_append.mp he with he | he
  · exact hp F r hF e he
  · rw [List.mem_singleton.mp he]
    exact hd

/-- What is asked for in the course of a procedure decides how it is performed:
**hosts that agree on it perform alike**. -/
theorem Asks.perform_eq {σ : Type} {host host' : Host σ} {p : Procedure α} (hp : p.Asks R)
    (hagree : ∀ q, R q → host q = host' q) (s : σ) : p.perform host s = p.perform host' s := by
  -- Both hosts answer the first request alike and leave the same state; so they meet
  -- the same rest.
  induction p generalizing s with
  | done a => rfl
  | fail e => rfl
  | ask q k ih =>
      have hq : R q := hp _ _ (leads_account host _ s) _ (List.mem_cons_self ..)
      have hk : ∀ x, (k x).Asks R := fun x E r hleads e he =>
        hp _ r (.ask hleads) e (List.mem_cons_of_mem _ he)
      unfold perform
      rw [hagree q hq]
      exact ih _ (hk _) _

/-- **Only those files are looked at.** -/
theorem Composed.looks {p : Procedure α} (h : p.Composed P Q) :
    p.Asks fun q => ∀ path, q.file? = some path → Q path := by
  induction h with
  | done a => exact asks_done a
  | fail e => exact asks_fail e
  | passive _ hq _ ih => exact asks_ask hq ih
  | run c => exact asks_ask (fun _ h => by cases h) asks_ofExcept
  | capture _ => exact asks_ask (fun _ h => by cases h) asks_done
  | download url =>
      refine asks_ask (fun _ h => by cases h) fun _ => asks_ask (fun _ h => by cases h) fun body => ?_
      cases body with
      | ok bytes => exact asks_ask (fun _ h => by cases h) fun _ => asks_done _
      | error e => exact asks_ask (fun _ h => by cases h) fun _ => asks_fail e
  | bind _ _ ih ih' => exact ih.bind ih'
  -- What is created before a body and discarded after it is not looked at.
  | withFile _ ih =>
      refine asks_ask (fun _ h => by cases h) fun x => ?_
      cases x with
      | ok path => exact (ih path).withCleanUp fun _ h => by cases h
      | error e => exact asks_fail e
  | withDirectory _ ih =>
      refine asks_ask (fun _ h => by cases h) fun x => ?_
      cases x with
      | ok path => exact (ih path).withCleanUp fun _ h => by cases h
      | error e => exact asks_fail e

end Procedure

open Procedure

/-! ## §3. The steps. -/

section Steps

variable {P : Command → Prop} {Q : Path → Prop} (ctx : Context)

/-- Whether a tool is needed: a look at the search path and a line in the log. -/
theorem composed_needsInstall (kind : Prerequisite) : (ctx.needsInstall kind).Composed P Q := by
  refine .bind (composed_locate _) fun found => ?_
  cases found with
  | none => exact (composed_log _ _ _).andThen (.done _)
  | some path =>
      show (if ctx.config.force then _ else _ : Procedure _).Composed P Q
      split
      · exact (composed_log _ _ _).andThen (.done _)
      · exact (composed_tell _).andThen (.done _)

/-- A tool and its installer. -/
theorem composed_whenNeeded (kind : Prerequisite) {install : Procedure Unit}
    (h : install.Composed P Q) : (ctx.whenNeeded kind install).Composed P Q :=
  .bind (composed_needsInstall ctx kind) fun needed => h.when needed

/-- **A version probe captures its command**, and this is the one place where a
command is captured. -/
theorem composed_ask {c : Command} (p : Pattern) (hc : P c) :
    (ToolVersion.ask c p).Composed P Q := by
  refine .bind (.capture hc) fun answer => ?_
  cases answer with
  | error e => exact .done _
  | ok r =>
      show (if r.succeeded then _ else _ : Procedure _).Composed P Q
      split
      · exact .done _
      · exact (composed_log _ _ _).andThen (.done _)

/-- Node.js: a script with a file of its own on Linux, Homebrew on macOS,
nothing on Windows. -/
theorem composed_installNode : (NodeJs.install ctx).Composed P Q := by
  unfold NodeJs.install
  split
  · refine composed_whenNeeded ctx _ ((composed_step _).andThen
      (.bind (.download _) fun script => .withFile fun path => ?_))
    exact (Composed.run _).andThen (.run _)
  · rw [NodeJs.relinkFormula_eq]
    have hunlink : NodeJs.unlinkPresent.Composed P Q :=
      .bind (composed_locate _) fun found => (Composed.run _).when _
    exact (composed_step _).andThen (hunlink.andThen ((Composed.run _).andThen (.run _)))
  · exact composed_log _ _ _

theorem composed_installTooling : (NodeJs.installTooling ctx).Composed P Q :=
  (composed_step _).andThen (.run _)

/-- On macOS the JDK step asks Homebrew for its version. -/
theorem composed_installJdkFormula (h : P (ToolVersion.question "brew")) :
    (Prerequisites.installJdkFormula ctx).Composed P Q := by
  have hbrew : ToolVersion.homebrew.Composed P Q :=
    .bind (composed_ask ToolVersion.homebrewPattern h) fun _ => .done _
  refine composed_whenNeeded ctx _ (.bind hbrew fun version => ?_)
  show (if version == ToolVersion.notAvailable then _ else _ : Procedure _).Composed P Q
  split
  · exact .fail _
  · exact (composed_log _ _ _).andThen ((composed_step _).andThen (.run _))

theorem composed_requireJdk : (Prerequisites.requireJdk ctx).Composed P Q := by
  refine .bind (composed_locate _) fun found => ?_
  cases found with
  | none => exact .fail _
  | some path =>
      show (if ctx.config.force then _ else _ : Procedure _).Composed P Q
      split
      · exact composed_tell _
      · exact .done ()

/-- Only the JDK step on macOS asks a tool, and that is Homebrew. -/
theorem composed_ensure (kind : Prerequisite)
    (h : ctx.target.os = .macOS → kind = .javaCompiler → P (ToolVersion.question "brew")) :
    (Prerequisites.ensure ctx kind).Composed P Q := by
  have hinstall : ∀ (kind : Prerequisite) (text : String) (c : Command), (ctx.whenNeeded kind
      ((step text).bind fun _ => Procedure.run c)).Composed P Q :=
    fun kind _ c => composed_whenNeeded ctx kind ((composed_step _).andThen (.run c))
  -- The table has seven rows; only the last of them asks a tool.
  unfold Prerequisites.ensure
  split
  · exact composed_requireJdk ctx
  · exact composed_log _ _ _
  · exact composed_installNode ctx
  · exact hinstall _ _ _
  · exact hinstall _ _ _
  · exact hinstall _ _ _
  · exact composed_installJdkFormula ctx (h ‹_› rfl)

/-- The build is the one step with a directory of its own. -/
theorem composed_nativeBuild (l : NativeLibrary) : (NativeBuild.install ctx l).Composed P Q := by
  unfold NativeBuild.install
  split
  · exact .withDirectory fun dir => (composed_step _).andThen
      ((composed_forM_run _).andThen (composed_tell _))
  · exact composed_log _ _ _

/-- The package step runs commands and captures none. -/
theorem composed_packages (a : Option Accelerator) (requirements : Path) (nightly : Bool) :
    (PythonPackages.install ctx a requirements nightly).Composed P Q := by
  unfold PythonPackages.install
  cases h : PythonPackages.unsupported? ctx.target.os a with
  | some e =>
      rw [PythonPackages.installFor_unsupported h]
      exact .fail e
  | none =>
      rw [PythonPackages.installFor_eq h]
      have hpip : ∀ (text : String) (c : Command),
          ((step text).bind fun _ => Procedure.run c).Composed P Q :=
        fun _ c => (composed_step _).andThen (.run c)
      have hconda : PythonPackages.condaBuild.Composed P Q :=
        .bind (composed_locate _) fun found => (hpip _ _).when _
      exact hconda.andThen ((hpip _ _).andThen (((Composed.run _).when _).andThen
        ((hpip _ _).andThen ((hpip _ _).when _))))

theorem composed_prepare : (Sequence.prepare ctx).Composed P Q := by
  rw [Sequence.prepare_eq]
  exact ((composed_step _).andThen (.run _)).when _

/-- The developer steps capture nothing, for the JDK is not among them. -/
theorem composed_developerTools : (Sequence.developerTools ctx).Composed P Q := by
  rw [Sequence.developerTools_eq]
  have hwget : (Prerequisites.ensure ctx .downloadUtility).Composed P Q :=
    composed_ensure ctx _ fun _ h => by cases h
  exact hwget.andThen ((composed_installNode ctx).andThen ((composed_installTooling ctx).andThen
    ((composed_nativeBuild ctx _).when _)))

/-- **The steps**, which capture Homebrew on macOS only. -/
theorem composed_steps (h : ctx.target.os = .macOS → P (ToolVersion.question "brew")) :
    (Sequence.steps ctx).Composed P Q :=
  (composed_prepare ctx).andThen (((composed_developerTools ctx).when _).andThen
    ((composed_ensure ctx _ fun hos _ => h hos).andThen (composed_packages ctx _ _ _)))

/-- The check captures the interpreter. -/
theorem composed_checkPython (h : P (ToolVersion.question ctx.settings.python)) :
    (Sequence.checkPython ctx).Composed P Q := by
  have hpython : (ToolVersion.python ctx.settings.python).Composed P Q :=
    .bind (composed_ask ToolVersion.pythonPattern h) fun _ => .done _
  refine .bind hpython fun found => ?_
  cases found with
  | none => exact .fail _
  | some release =>
      show (if release.atLeast Sequence.oldestPython then _ else _ : Procedure _).Composed P Q
      split
      · exact composed_log _ _ _
      · exact .fail _

/-- A dry run captures no interpreter. -/
theorem composed_interpreter
    (h : ctx.config.dryRun = false → P (ToolVersion.question ctx.settings.python)) :
    (Sequence.interpreter ctx).Composed P Q := by
  unfold Sequence.interpreter
  split
  · exact composed_log _ _ _
  · rename_i hdry
    exact composed_checkPython ctx (h (Bool.eq_false_iff.mpr hdry))

/-- **The whole installation.** -/
theorem composed_install
    (hpython : ctx.config.dryRun = false → P (ToolVersion.question ctx.settings.python))
    (hbrew : ctx.target.os = .macOS → P (ToolVersion.question "brew")) :
    (Sequence.install ctx).Composed P Q := by
  rw [Sequence.install_eq]
  exact (composed_log _ _ _).andThen ((composed_interpreter ctx hpython).andThen
    (composed_steps ctx hbrew))

end Steps

/-! ## §4. A run. -/

section Run

variable {P : Command → Prop} {Q : Path → Prop}

/-- Loading looks at the file that is named, or else at that of the project. -/
theorem composed_load {root : Path} {named : Option Path}
    (h : Q (named.getD (Settings.projectFile root))) :
    (Settings.load root named).Composed P Q := by
  have hfile : ∀ path, Q path → (Settings.loadFile path).Composed P Q := fun path hpath =>
    (composed_log _ _ _).andThen
      (.bind (composed_read hpath) fun bytes => composed_ofExcept _)
  cases named with
  | some path =>
      refine .bind (composed_doesExist h) fun found => ?_
      cases found with
      | true => exact hfile path h
      | false => exact .fail _
  | none =>
      show (((doesExist (Settings.projectFile root)).bind _).bind _).Composed P Q
      rw [bind_assoc]
      refine .bind (composed_doesExist h) fun found => ?_
      cases found with
      | true => exact hfile _ h
      | false => exact (composed_log _ _ _).andThen (.done _)

/-- **A run with its settings and its scratch directory.** -/
theorem composed_run (w : Surroundings) (a : CommandLine.Arguments)
    (hpython : a.dryRun = false → ∀ python, P (ToolVersion.question python))
    (hbrew : a.targetOs w.os = .macOS → P (ToolVersion.question "brew"))
    (hfiles : ∀ root, Q (a.config.getD (Settings.projectFile root))) :
    (Run.install w a).Composed P Q := by
  refine .bind (composed_ofExcept _) fun root =>
    .bind (composed_load (hfiles root)) fun settings =>
      (composed_log _ _ _).andThen (.withDirectory fun scratch => ?_)
  exact (composed_tell _).andThen ((composed_install _ (fun h => hpython h _) hbrew).andThen
    (composed_tell _))

end Run

end Provision
