/-
  Provision.Proofs.Asked
  ──────────────────────
  **WHAT THE STEPS ASK FOR.**

  Whatever is answered, a step makes no request but those that it is made of.
  The requests that matter are the calls and the looks at the search path; of
  all others a step may make as many as it likes.  So a property of requests is
  `Lenient` if it allows those others, and for such a property each step has one
  lemma, which names the calls and the looks of that step.

  Main results:

    `asks_packages`      the package step runs conda and the interpreter's pip
    `asks_nativeBuild`   the build runs its five commands, in a new directory
    `asks_whenNeeded`    a tool is looked for, and installed where it is missing
    `asks_iff_next`      what is asked for, request by request
    `Asks.perform_keeps` what every request keeps, the procedure keeps
    `visits_torch`       no installation succeeds without torch
-/
import Provision.Host.Recorder
import Provision.Proofs.Composed

namespace Provision

open Procedure

/-! ## §1. Single requests. -/

/-- Every request is allowed that is neither a call nor a look at the search
path. -/
def Lenient (R : Request → Prop) : Prop :=
  ∀ r, r.isCall = false → (∀ tool, r ≠ .locate tool) → R r

namespace Procedure

variable {α β : Type} {R : Request → Prop}

/-- What is asked for, request by request. -/
theorem asks_iff_next {q : Request} {k : q.Answer → Procedure α} :
    (Procedure.ask q k).Asks R ↔ R q ∧ ∀ x, (k x).Asks R := by
  constructor
  · intro h
    constructor
    · -- Any host makes the first request.
      have hleads := leads_account Recorder.host (Procedure.ask q k) {}
      exact h _ _ hleads _ (List.mem_cons_self ..)
    · intro x E r hleads e he
      exact h _ r (.ask hleads) e (List.mem_cons_of_mem _ he)
  · rintro ⟨hq, hk⟩
    exact asks_ask hq hk

/-- **What every request of a procedure keeps, the procedure keeps.** -/
theorem Asks.perform_keeps {σ : Type} {host : Host σ} {I : σ → Prop}
    (hkeeps : ∀ r s, R r → I s → I (host r s).2) {p : Procedure α} (hp : p.Asks R) {s : σ}
    (hs : I s) : I (p.perform host s).2 := by
  -- On the procedure: the host answers its first request, and the rest is a procedure
  -- again, in the state that the answer leaves.
  induction p generalizing s with
  | done a => exact hs
  | fail e => exact hs
  | ask r k ih =>
      obtain ⟨hr, hk⟩ := asks_iff_next.mp hp
      exact ih _ (hk _) (hkeeps r s hr hs)

/-- A run asks for its command and nothing else: the answer only decides whether
to go on. -/
theorem asks_run {c : Command} (h : R (.run c)) : (run c).Asks R := asks_ask h asks_ofExcept

theorem asks_capture {c : Command} (h : R (.capture c)) : (capture c).Asks R :=
  asks_ask h asks_done

theorem asks_locate {tool : String} (h : R (.locate tool)) : (locate tool).Asks R :=
  asks_ask h asks_done

/-- A list of commands asks for its members, however far it gets. -/
theorem asks_forM_run {cs : List Command} (h : ∀ c ∈ cs, R (.run c)) :
    (cs.forM run).Asks R := by
  induction cs with
  | nil => exact asks_done ()
  | cons c cs ih =>
      have hc := asks_run (h c (List.mem_cons_self ..))
      exact hc.bind fun _ => ih fun d hd => h d (List.mem_cons_of_mem _ hd)

/-- A step on a condition asks for no more than the step. -/
theorem Asks.when {p : Procedure Unit} (h : p.Asks R) (c : Bool) : (when c p).Asks R := by
  cases c with
  | false => exact asks_done ()
  | true => exact h

section Lenient

variable (hR : Lenient R)
include hR

/-- Notices cost nothing: a lenient property allows every one of them. -/
theorem asks_tell (n : Notice) : (tell n).Asks R :=
  asks_ask (hR _ rfl fun _ h => by cases h) asks_done

theorem asks_step (text : String) : (step text).Asks R := asks_tell hR _

theorem asks_log (level : LogLevel) (source : LogSource) (text : String) :
    (log level source text).Asks R :=
  asks_ask (hR _ rfl fun _ h => by cases h) asks_done

/-- A temporary file costs nothing, neither making it nor taking it away; only
its body is asked about, for whatever path the host chose. -/
theorem Asks.withFile {parent : Path} {before after : String} {content : ByteArray}
    {body : Path → Procedure α} (hb : ∀ path, (body path).Asks R) :
    (withFile parent before after content body).Asks R := by
  refine asks_ask (hR _ rfl fun _ h => by cases h) fun x => (asks_ofExcept x).bind fun path => ?_
  exact (hb path).withCleanUp (hR _ rfl fun _ h => by cases h)

/-- The same for a temporary directory. -/
theorem Asks.withDirectory {parent : Path} {before : String} {body : Path → Procedure α}
    (hb : ∀ path, (body path).Asks R) : (withDirectory parent before body).Asks R := by
  refine asks_ask (hR _ rfl fun _ h => by cases h) fun x => (asks_ofExcept x).bind fun path => ?_
  exact (hb path).withCleanUp (hR _ rfl fun _ h => by cases h)

end Lenient

end Procedure

/-! ## §2. Questions to the host. -/

section Steps

variable {R : Request → Prop} {ctx : Context} (hR : Lenient R)
include hR

/-- To decide whether a tool is needed takes one look at the search path, with
force and without. -/
theorem asks_needsInstall {kind : Prerequisite} (hlocate : R (.locate kind.binary)) :
    (ctx.needsInstall kind).Asks R := by
  refine (asks_locate hlocate).bind fun found => ?_
  cases found with
  | none => exact (asks_log hR _ _ _).bind fun _ => asks_done _
  | some path =>
      -- A tool that is there is installed again only with force; both branches only
      -- report.
      show (if ctx.config.force then _ else _ : Procedure _).Asks R
      split
      · exact (asks_log hR _ _ _).bind fun _ => asks_done _
      · exact (asks_tell hR _).bind fun _ => asks_done _

/-- **A tool is looked for, and installed where it is missing**; so the look and
the requests of its installer are all there is. -/
theorem asks_whenNeeded {kind : Prerequisite} {install : Procedure Unit}
    (hlocate : R (.locate kind.binary)) (h : install.Asks R) :
    (ctx.whenNeeded kind install).Asks R := by
  rw [Context.whenNeeded_eq]
  exact (asks_needsInstall hR hlocate).bind fun needed => h.when needed

/-- A version is asked for by one captured command, and what is done with the
answer asks for nothing. -/
theorem asks_version {c : Command} (p : Pattern) (hc : R (.capture c)) :
    (ToolVersion.ask c p).Asks R := by
  refine (asks_capture hc).bind fun answer => ?_
  cases answer with
  | error e => exact asks_done _
  | ok r =>
      show (if r.succeeded then _ else _ : Procedure _).Asks R
      split
      · exact asks_done _
      · exact (asks_log hR _ _ _).bind fun _ => asks_done _

/-- The check of the interpreter is one probe, or none where it is skipped. -/
theorem asks_interpreter (hc : R (.capture (ToolVersion.question ctx.settings.python))) :
    (Sequence.interpreter ctx).Asks R := by
  unfold Sequence.interpreter
  split
  · exact asks_log hR _ _ _
  · refine ((asks_version hR _ hc).bind fun _ => asks_done _).bind fun found => ?_
    cases found with
    | none => exact asks_fail _
    | some release =>
        show (if release.atLeast Sequence.oldestPython then _ else _ : Procedure _).Asks R
        split
        · exact asks_log hR _ _ _
        · exact asks_fail _

/-! ## §3. Tools. -/

theorem asks_download {url : String} (hfetch : R (.fetch url)) :
    (NodeJs.download url).Asks R := by
  refine (asks_tell hR _).bind fun _ => (asks_ask hfetch asks_done).bind fun body => ?_
  cases body with
  | ok bytes => exact (asks_tell hR _).bind fun _ => asks_done _
  | error e => exact (asks_tell hR _).bind fun _ => asks_fail e

/-- Node.js from its setup script: one download, one shell for the script
wherever it was put, and one package installation. -/
theorem asks_installFromSource (hfetch : R (.fetch ctx.settings.nodesourceUrl))
    (hbash : ∀ script : Path, R (.run (ctx.elevated "bash" [script.text])))
    (hapt : R (.run (ctx.elevated "apt-get" ["install", "-y", "nodejs"]))) :
    (NodeJs.installFromSource ctx).Asks R := by
  refine (asks_step hR _).bind fun _ => (asks_download hR hfetch).bind fun script => ?_
  exact Asks.withFile hR fun path => (asks_run (hbash path)).bind fun _ => asks_run hapt

/-- Node.js through Homebrew: a look for the old one, and three subcommands of
`brew`. -/
theorem asks_relinkFormula (hlocate : R (.locate "node"))
    (hbrew : ∀ verb ∈ ["unlink", "install", "link"], ∀ arguments,
      R (.run ⟨"brew", verb :: arguments, none⟩)) :
    (NodeJs.relinkFormula ctx).Asks R := by
  rw [NodeJs.relinkFormula_eq]
  have hunlink : NodeJs.unlinkPresent.Asks R :=
    (asks_locate hlocate).bind fun found =>
      (asks_run (hbrew "unlink" (by decide) _)).when found.isSome
  exact (asks_step hR _).bind fun _ => hunlink.bind fun _ =>
    (asks_run (hbrew "install" (by decide) _)).bind fun _ =>
      asks_run (hbrew "link" (by decide) _)

theorem asks_installTooling (h : R (.run (NodeJs.toolingCommand ctx))) :
    (NodeJs.installTooling ctx).Asks R := (asks_step hR _).bind fun _ => asks_run h

/-- A JDK through Homebrew: the version probe decides, and then one formula is
installed or nothing. -/
theorem asks_brewJdk (hcapture : R (.capture (ToolVersion.question "brew")))
    (hbrew : R (.run ⟨"brew", ["install", ctx.settings.jdkFormula], none⟩)) :
    (Prerequisites.brewJdk ctx).Asks R := by
  refine ((asks_version hR _ hcapture).bind fun _ => asks_done _).bind fun version => ?_
  split
  · exact asks_fail _
  · exact (asks_log hR _ _ _).bind fun _ => (asks_step hR _).bind fun _ => asks_run hbrew

/-- With the look for `javac` before it, this is the whole JDK step on macOS. -/
theorem asks_installJdkFormula (hlocate : R (.locate "javac"))
    (hcapture : R (.capture (ToolVersion.question "brew")))
    (hbrew : R (.run ⟨"brew", ["install", ctx.settings.jdkFormula], none⟩)) :
    (Prerequisites.installJdkFormula ctx).Asks R := by
  rw [Prerequisites.installJdkFormula_eq]
  exact asks_whenNeeded hR hlocate (asks_brewJdk hR hcapture hbrew)

/-- On Windows a JDK is looked for and never installed. -/
theorem asks_requireJdk (hlocate : R (.locate "javac")) :
    (Prerequisites.requireJdk ctx).Asks R := by
  refine (asks_locate hlocate).bind fun found => ?_
  cases found with
  | none => exact asks_fail _
  | some path =>
      show (if ctx.config.force then _ else _ : Procedure _).Asks R
      split
      · exact asks_tell hR _
      · exact asks_done _

/-! ## §4. The native library and the packages. -/

/-- **The build runs its five commands, in a new directory** that only the host
knows; so the property has to allow them for every directory. -/
theorem asks_nativeBuild {l : NativeLibrary}
    (h : ∀ dir, ∀ c ∈ NativeBuild.commands ctx.target.privilege l dir, R (.run c)) :
    (NativeBuild.install ctx l).Asks R := by
  unfold NativeBuild.install
  split
  · exact Asks.withDirectory hR fun dir => (asks_step hR _).bind fun _ =>
      (asks_forM_run (h dir)).bind fun _ => asks_tell hR _
  · exact asks_log hR _ _ _

/-- The build tools are installed through conda where conda is found. -/
theorem asks_condaBuild (hlocate : R (.locate "conda"))
    (hconda : R (.run ⟨"conda", ["install", "-y", "conda-build"], none⟩)) :
    PythonPackages.condaBuild.Asks R :=
  (asks_locate hlocate).bind fun found =>
    ((asks_step hR _).bind fun _ => asks_run hconda).when found.isSome

/-- All that follows conda is run through the interpreter's pip, with some
arguments or others. -/
theorem asks_pipSteps (os : Os) (a : Option Accelerator) (requirements : Path) (nightly : Bool)
    (hpip : ∀ arguments, R (.run (PythonPackages.pip ctx arguments))) :
    (PythonPackages.pipSteps ctx os a requirements nightly).Asks R :=
  ((asks_step hR _).bind fun _ => asks_run (hpip _)).bind fun _ =>
    ((asks_run (hpip _)).when _).bind fun _ =>
      ((asks_step hR _).bind fun _ => asks_run (hpip _)).bind fun _ =>
        ((asks_step hR _).bind fun _ => asks_run (hpip _)).when _

/-- **The package step runs conda and the interpreter's pip.** An unsupported
accelerator ends the step before either. -/
theorem asks_packages (a : Option Accelerator) (requirements : Path) (nightly : Bool)
    (hlocate : R (.locate "conda"))
    (hconda : R (.run ⟨"conda", ["install", "-y", "conda-build"], none⟩))
    (hpip : ∀ arguments, R (.run (PythonPackages.pip ctx arguments))) :
    (PythonPackages.install ctx a requirements nightly).Asks R := by
  unfold PythonPackages.install
  -- The step is cut in two by whether the pair is supported at all.
  cases hu : PythonPackages.unsupported? ctx.target.os a with
  | some e =>
      rw [PythonPackages.installFor_unsupported hu]
      exact asks_fail e
  | none =>
      rw [PythonPackages.installFor_pipSteps hu]
      exact (asks_condaBuild hR hlocate hconda).bind fun _ => asks_pipSteps hR _ _ _ _ hpip

end Steps

/-! ## §5. Requests that a success cannot do without. -/

namespace Procedure

variable {α β : Type} {r : Request}

/-- Whenever the procedure succeeds, it has made this request. -/
def Visits (p : Procedure α) (r : Request) : Prop :=
  ∀ E a, p.Leads E (.ok a) → r ∈ E.map Exchange.request

/-- A run that succeeds was made. -/
theorem visits_run (c : Command) : (run c).Visits (.run c) := by
  intro E a h
  obtain ⟨_, F, rfl, -⟩ := leads_ask.mp h
  exact List.mem_cons_self ..

/-- A procedure that fails never succeeds. -/
theorem visits_fail (e : Failure) : (Procedure.fail e : Procedure α).Visits r := by
  intro E a h
  cases (leads_fail.mp h).2

/-- What the first part makes, the whole sequence makes. -/
theorem Visits.before {p : Procedure α} (h : p.Visits r) (f : α → Procedure β) :
    (p.bind f).Visits r := by
  intro E b hleads
  obtain ⟨a, E₁, E₂, rfl, h₁, -⟩ := leads_bind_ok hleads
  rw [List.map_append, List.mem_append]
  exact .inl (h E₁ a h₁)

/-- What the second part makes whatever it is handed, the whole sequence makes. -/
theorem Visits.after {f : α → Procedure β} (h : ∀ a, (f a).Visits r) (p : Procedure α) :
    (p.bind f).Visits r := by
  intro E b hleads
  obtain ⟨a, E₁, E₂, rfl, -, h₂⟩ := leads_bind_ok hleads
  rw [List.map_append, List.mem_append]
  exact .inr (h a E₂ b h₂)

end Procedure

/-- No installation succeeds without what the package step cannot do without. -/
theorem visits_packages {ctx : Context} {r : Request}
    (h : PythonPackages.unsupported? ctx.target.os ctx.config.accelerator = none →
      (PythonPackages.install ctx ctx.config.accelerator ctx.config.requirementsPath
        ctx.config.nightly).Visits r) :
    (Sequence.install ctx).Visits r := by
  rw [Sequence.install_eq]
  -- Packages come last, behind five other steps that are passed over.
  refine .after (fun _ => .after (fun _ => .after (fun _ => .after (fun _ =>
    .after (fun _ => ?_) _) _) _) _) _
  cases hu : PythonPackages.unsupported? ctx.target.os ctx.config.accelerator with
  | some e =>
      unfold PythonPackages.install
      rw [PythonPackages.installFor_unsupported hu]
      exact visits_fail e
  | none => exact h hu

/-- **No installation succeeds without torch.** -/
theorem visits_torch {ctx : Context} :
    (Sequence.install ctx).Visits
      (.run (PythonPackages.torchCommand ctx ctx.target.os ctx.config.accelerator)) := by
  refine visits_packages fun hu => ?_
  have htorch : (PythonPackages.torch ctx ctx.target.os ctx.config.accelerator).Visits
      (.run (PythonPackages.torchCommand ctx ctx.target.os ctx.config.accelerator)) :=
    .after (fun _ => visits_run _) _
  unfold PythonPackages.install
  rw [PythonPackages.installFor_eq hu]
  exact .after (fun _ => htorch.before _) _

/-- No installation succeeds without the file of requirements. -/
theorem visits_requirements {ctx : Context} :
    (Sequence.install ctx).Visits
      (.run (PythonPackages.pip ctx ["-U", "-r", ctx.config.requirementsPath.text])) := by
  refine visits_packages fun hu => ?_
  have hrequirements : (PythonPackages.requirementsOf ctx ctx.config.requirementsPath).Visits
      (.run (PythonPackages.pip ctx ["-U", "-r", ctx.config.requirementsPath.text])) :=
    .after (fun _ => visits_run _) _
  unfold PythonPackages.install
  rw [PythonPackages.installFor_eq hu]
  exact .after (fun _ => .after (fun _ => .after (fun _ => hrequirements.before _) _) _) _

end Provision
