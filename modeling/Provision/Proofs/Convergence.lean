/-
  Provision.Proofs.Convergence
  ────────────────────────────
  **A HOST THAT HAS MORE.**

  A run that leaves alone what is there has less to do on a host that has more.
  On Linux every tool is looked for in one place of the plan, so the plan for
  the host with more is the other plan with parts left out.  On a host with all
  the tools nothing is left that sets the system up: what is run is npm, the
  build of the native library, conda and pip.

  Main results:

    `Plan.calls_sublist`   the plan for a host that has more
    `spares_install`       what is asked for on a host that has all the tools
    `install_converges`    a run on a host that has more
-/
import Provision.Proofs.LessWork

namespace Provision

open Procedure

/-! ## §1. The plan for a host that has more. -/

namespace Plan

variable {ctx : Context} {has has' : String → Bool}

/-- A part that is left out, or that is there in both. -/
theorem part_sublist {α : Type} {c c' : Bool} (h : c' = true → c = true) (xs : List α) :
    (if c' then xs else []).Sublist (if c then xs else []) := by
  cases c' with
  | false => exact List.nil_sublist _
  | true => rw [h rfl]

section More

variable (hmore : ∀ tool, has tool = true → has' tool = true)
include hmore

/-- What is still missing was missing. -/
theorem needs_of_more {tool : String} (h : needs ctx has' tool = true) :
    needs ctx has tool = true := by
  unfold needs at h ⊢
  cases hhas : has tool with
  | false => exact Bool.or_true _
  | true =>
      rw [hmore tool hhas] at h
      exact h

variable (hos : ctx.target.os = .linux)
include hos

/-- The download utility is left out where it is there. -/
theorem downloadUtility_sublist :
    (downloadUtility ctx has').Sublist (downloadUtility ctx has) := by
  unfold downloadUtility
  rw [hos]
  exact part_sublist (needs_of_more hmore) _

/-- Node.js is left out with its script. -/
theorem node_sublist (script : Path) :
    (node ctx has' script).Sublist (node ctx has script) := by
  unfold node
  rw [hos]
  exact part_sublist (needs_of_more hmore) _

/-- The JDK is left out where there is a compiler. -/
theorem jdk_sublist : (jdk ctx has').Sublist (jdk ctx has) := by
  unfold jdk
  rw [hos]
  exact part_sublist (needs_of_more hmore) _

/-- **The plan for a host that has more is the other one with parts left out**,
if both hosts have conda or neither has. -/
theorem calls_sublist (hconda : has' "conda" = has "conda") (script dir : Path) :
    (calls ctx has' script dir).Sublist (calls ctx has script dir) := by
  have htools : (developerTools ctx has' script dir).Sublist
      (developerTools ctx has script dir) := by
    unfold developerTools
    cases ctx.config.environment with
    | production => exact .slnil
    | developer =>
        exact (((downloadUtility_sublist hmore hos).append (node_sublist hmore hos script)).append
          (.refl _)).append (.refl _)
  have hpackages : packages ctx has' = packages ctx has := by
    unfold packages
    rw [hconda]
  unfold calls
  rw [hpackages]
  exact (htools.append_left _).append (jdk_sublist hmore hos) |>.append (.refl _)

end More

end Plan

/-- On Linux a host that has more has no step to do that the other is spared. -/
theorem lighter_more {ctx : Context} {known known' : String → Option Path}
    (hos : ctx.target.os = .linux)
    (hmore : ∀ tool, Known known tool = true → Known known' tool = true)
    (hconda : Known known' "conda" = Known known "conda") : Lighter ctx false known false known' where
  needs _ h := Plan.needs_of_more hmore h
  index h := h
  conda := hconda
  node h := by rw [hos] at h; cases h
  compiler h := by rw [hos] at h; cases h

/-! ## §2. What is asked for where the tools are there. -/

namespace Procedure

variable {α β : Type} {known : String → Option Path} {R : Request → Prop}

/-- Where the search path holds the known tools only such requests are made. -/
def AsksWith (known : String → Option Path) (R : Request → Prop) (p : Procedure α) : Prop :=
  ∀ E r, Account.Probed known E → p.Leads E r → ∀ e ∈ E, R e.request

/-- What holds of all requests holds where the tools are known. -/
theorem Asks.asksWith {p : Procedure α} (h : p.Asks R) : p.AsksWith known R :=
  fun E r _ hleads => h E r hleads

/-- A sequence asks for what its parts ask for, each with the same tools there. -/
theorem AsksWith.bind {p : Procedure α} {f : α → Procedure β} (hp : p.AsksWith known R)
    (hf : ∀ a, (f a).AsksWith known R) : (p.bind f).AsksWith known R := by
  intro E r hE h e he
  rcases leads_bind.mp h with ⟨_, hfail, -⟩ | ⟨a, E₁, E₂, rfl, h₁, h₂⟩
  · exact hp E _ hE hfail e he
  · obtain ⟨hE₁, hE₂⟩ := probed_append hE
    rcases List.mem_append.mp he with he | he
    · exact hp E₁ _ hE₁ h₁ e he
    · exact hf a E₂ r hE₂ h₂ e he

theorem AsksWith.when {p : Procedure Unit} (h : p.AsksWith known R) (c : Bool) :
    (when c p).AsksWith known R := by
  cases c with
  | false => exact (asks_done ()).asksWith
  | true => exact h

/-- **A tool that is there is only looked for**, whatever its installation would
ask for. -/
theorem asksWith_whenNeeded (hR : Lenient R) {ctx : Context} {kind : Prerequisite}
    (hlocate : R (.locate kind.binary))
    (hthere : Plan.needs ctx (Known known) kind.binary = false) (install : Procedure Unit) :
    (ctx.whenNeeded kind install).AsksWith known R := by
  intro E r hE h e he
  have hasked : (ctx.needsInstall kind).Asks R := asks_needsInstall hR hlocate
  rw [Context.whenNeeded_eq] at h
  rcases leads_bind.mp h with ⟨_, hfail, -⟩ | ⟨needed, E₁, E₂, rfl, h₁, h₂⟩
  · exact hasked E _ hfail e he
  · obtain ⟨hE₁, hE₂⟩ := probed_append hE
    have hneeded : needed = false := (leads_needsInstall hE₁ h₁).1.trans hthere
    subst hneeded
    obtain ⟨rfl, -⟩ := leads_done.mp h₂
    rw [List.append_nil] at he
    exact hasked E₁ _ h₁ e he

end Procedure

/-! ## §3. What sets the system up, and what does not. -/

namespace Context

variable (ctx : Context)

/-- The commands that set a Linux system up: those of apt, and the script of the
package source. -/
inductive SetUp : Command → Prop
  | apt {verb : String} (h : verb ∈ ["update", "install"]) (arguments : List String) :
      SetUp (ctx.elevated "apt-get" (verb :: arguments))
  | script (path : Path) : SetUp (ctx.elevated "bash" [path.text])

/-- The other commands of a run on Linux: npm's, those of the build, conda's and
pip's. -/
inductive Upkeep : Command → Prop
  | npm : Upkeep (NodeJs.toolingCommand ctx)
  | build {dir : Path} {c : Command}
      (h : c ∈ NativeBuild.commands ctx.target.privilege ctx.settings.nativeLibrary dir) : Upkeep c
  | conda : Upkeep ⟨"conda", ["install", "-y", "conda-build"], none⟩
  | pip (arguments : List String) : Upkeep (PythonPackages.pip ctx arguments)

/-- A request that does not set the system up: neither a download nor one of
those commands.  The version of the interpreter may be asked for. -/
structure Spares (r : Request) : Prop where
  fetch : ∀ url, r ≠ .fetch url
  run : ∀ c, r = .run c → ctx.Upkeep c ∧ ¬ ctx.SetUp c
  capture : ∀ c, r = .capture c → c = ToolVersion.question ctx.settings.python

variable {ctx} {c : Command}

/-- The words of a command, without a prefix and with one. -/
theorem elevated_words (program : String) (arguments : List String) :
    (ctx.elevated program arguments).program = program
        ∧ (ctx.elevated program arguments).arguments = arguments
      ∨ (ctx.elevated program arguments).arguments = program :: arguments := by
  unfold Context.elevated
  cases ctx.target.privilege with
  | none => exact .inl ⟨rfl, rfl⟩
  | some p => exact .inr rfl

/-- How the commands that set the system up begin, with a prefix or without one. -/
theorem SetUp.words (h : ctx.SetUp c) :
    (∃ verb ∈ ["update", "install"], ∃ arguments,
        c.program = "apt-get" ∧ c.arguments = verb :: arguments
          ∨ c.arguments = "apt-get" :: verb :: arguments)
      ∨ ∃ text, c.program = "bash" ∧ c.arguments = [text] ∨ c.arguments = ["bash", text] := by
  cases h with
  | apt hverb arguments => exact .inl ⟨_, hverb, arguments, elevated_words _ _⟩
  | script path => exact .inr ⟨path.text, elevated_words _ _⟩

/-- **No other command sets the system up.** -/
theorem Upkeep.not_setUp (hos : ctx.target.os = .linux) (h : ctx.Upkeep c) : ¬ ctx.SetUp c := by
  intro hsetUp
  have hwords := hsetUp.words
  cases h with
  | npm =>
      unfold NodeJs.toolingCommand Context.elevated at hwords
      rw [hos] at hwords
      cases hprivilege : ctx.target.privilege <;>
        simp [hprivilege, Command.elevated] at hwords
  | build hbuild =>
      unfold NativeBuild.commands at hbuild
      simp only [List.mem_cons, List.not_mem_nil, or_false] at hbuild
      rcases hbuild with rfl | rfl | rfl | rfl | rfl
      case inr.inr.inr.inr =>
        -- Of the build only the installation stands behind the prefix.
        cases hprivilege : ctx.target.privilege <;>
          simp [hprivilege, Command.elevated] at hwords
      all_goals simp at hwords
  | conda => simp at hwords
  | pip arguments => simp [PythonPackages.pip] at hwords

/-- To run a command of the upkeep sets nothing up. -/
theorem spares_run (hos : ctx.target.os = .linux) (h : ctx.Upkeep c) : ctx.Spares (.run c) where
  fetch _ heq := by cases heq
  run d hd := by
    cases hd
    exact ⟨h, h.not_setUp hos⟩
  capture _ hd := by cases hd

/-- A look at the search path sets nothing up. -/
theorem spares_locate (tool : String) : ctx.Spares (.locate tool) where
  fetch _ h := by cases h
  run _ h := by cases h
  capture _ h := by cases h

/-- The one command that is captured is the question to the interpreter. -/
theorem spares_question : ctx.Spares (.capture (ToolVersion.question ctx.settings.python)) where
  fetch _ h := by cases h
  run _ h := by cases h
  capture c h := by cases h; rfl

theorem lenient_spares : Lenient ctx.Spares := by
  intro r hr _
  constructor <;> rintro _ rfl <;> cases hr

end Context

section Equipped

variable {ctx : Context} {known : String → Option Path}

open Context (lenient_spares spares_run spares_locate spares_question)

/-- **With all the tools there nothing is asked for that sets the system up.** -/
theorem spares_install (hos : ctx.target.os = .linux)
    (hthere : ∀ kind : Prerequisite, Plan.needs ctx (Known known) kind.binary = false) :
    (Sequence.install ctx).AsksWith known ctx.Spares := by
  have hforce : ctx.config.force = false := (Bool.or_eq_false_iff.mp (hthere .jsRuntime)).1
  have hskip : ∀ kind install, (ctx.whenNeeded kind install).AsksWith known ctx.Spares :=
    fun kind install => asksWith_whenNeeded lenient_spares (spares_locate _) (hthere kind) install
  have hnode : (NodeJs.install ctx).AsksWith known ctx.Spares := by
    unfold NodeJs.install
    rw [hos]
    exact hskip _ _
  have hensure : ∀ kind, (Prerequisites.ensure ctx kind).AsksWith known ctx.Spares := by
    intro kind
    unfold Prerequisites.ensure
    rw [hos]
    cases kind with
    | jsRuntime => exact hnode
    | _ => exact hskip _ _
  have hdeveloper : (Sequence.developerTools ctx).AsksWith known ctx.Spares := by
    have htooling : (NodeJs.installTooling ctx).Asks ctx.Spares :=
      asks_installTooling lenient_spares (spares_run hos .npm)
    have hbuild : (NativeBuild.install ctx ctx.settings.nativeLibrary).Asks ctx.Spares :=
      asks_nativeBuild lenient_spares fun _ _ hc => spares_run hos (.build hc)
    rw [Sequence.developerTools_eq]
    exact (hensure _).bind fun _ => hnode.bind fun _ => htooling.asksWith.bind fun _ =>
      (hbuild.when _).asksWith
  have hprepare : (Sequence.prepare ctx).AsksWith known ctx.Spares := by
    rw [Sequence.prepare_eq, hforce, Bool.and_false]
    exact (asks_done ()).asksWith
  have hinterpreter : (Sequence.interpreter ctx).Asks ctx.Spares :=
    asks_interpreter lenient_spares spares_question
  have hpackages : (PythonPackages.install ctx ctx.config.accelerator ctx.config.requirementsPath
      ctx.config.nightly).Asks ctx.Spares :=
    asks_packages lenient_spares _ _ _ (spares_locate _) (spares_run hos .conda) fun _ =>
      spares_run hos (.pip _)
  rw [Sequence.install_eq]
  exact (asks_log lenient_spares _ _ _).asksWith.bind fun _ => hinterpreter.asksWith.bind fun _ =>
    hprepare.bind fun _ => (hdeveloper.when _).bind fun _ => (hensure _).bind fun _ =>
      hpackages.asksWith

end Equipped

/-! ## §4. Two hosts. -/

/-- **Running again on Linux converges.**  Let a run that leaves alone what is
there succeed on a host.  On a host that has more, but the same of conda, and
that gives the same replies, it succeeds as well, and its calls are among those
of the first run, in their order, up to the names of what is created.  On a host
with wget, Node.js and a Java compiler no run, whether it succeeds or not, sets
the system up: there is no command of apt, no set-up script and no download. -/
theorem install_converges (N : Renaming) (ctx : Context) (hos : ctx.target.os = .linux)
    (hforce : ctx.config.force = false) :
    (∀ (σ τ : Type) (known known' : String → Option Path) (host : Host σ) (host' : Host τ)
        (s : σ) (t : τ),
        (∀ tool s, (host (.locate tool) s).1 = known tool) →
        (∀ tool t, (host' (.locate tool) t).1 = known' tool) →
        (∀ tool, Known known tool → Known known' tool) →
        Known known' "conda" = Known known "conda" →
        N.likeness.SameReplies ((Sequence.install ctx).account host s)
          ((Sequence.install ctx).account host' t) →
        ((Sequence.install ctx).perform host s).1 = .ok () →
        ((Sequence.install ctx).perform host' t).1 = .ok () ∧
          ∃ kept, kept.Sublist ((Sequence.install ctx).account host s).runnerCalls
            ∧ List.Forall₂ N.likeness.Requests kept
                ((Sequence.install ctx).account host' t).runnerCalls)
      ∧ ∀ (σ : Type) (known : String → Option Path) (host : Host σ) (s : σ),
        (∀ tool s, (host (.locate tool) s).1 = known tool) →
        Known known "wget" → Known known "node" → Known known "javac" →
        ∀ e ∈ (Sequence.install ctx).account host s, ctx.Spares e.request := by
  refine ⟨?more, ?equipped⟩
  case more =>
    intro σ τ known known' host host' s t hknown hknown' hmore hconda hreplies hok
    have hctx : ctx.forcing false = ctx := by
      rw [← hforce]
      rfl
    have hE := probed_account hknown (Sequence.install ctx) s
    have hF := probed_account hknown' (Sequence.install ctx) t
    have hleads : (Sequence.install (ctx.forcing false)).Leads
        ((Sequence.install ctx).account host s) (.ok ()) := by
      rw [hctx, ← hok]
      exact leads_account ..
    have hleads' : (Sequence.install (ctx.forcing false)).Leads
        ((Sequence.install ctx).account host' t) ((Sequence.install ctx).perform host' t).1 := by
      rw [hctx]
      exact leads_account ..
    have hless : Lighter ctx false known false known' := lighter_more hos hmore hconda
    obtain ⟨hresult, script, dir, hcalls, halike, -⟩ :=
      lighter_calls hless hE hF hreplies hleads hleads'
    rw [hctx] at hcalls halike
    refine ⟨hresult, _, ?_, halike⟩
    rw [hcalls]
    exact Plan.calls_sublist hmore hos hconda script dir
  case equipped =>
    intro σ known host s hknown hwget hnode hjavac
    have hthere : ∀ kind : Prerequisite, Plan.needs ctx (Known known) kind.binary = false := by
      intro kind
      have hhas : Known known kind.binary = true := by
        cases kind with
        | downloadUtility => exact hwget
        | jsRuntime => exact hnode
        | javaCompiler => exact hjavac
      rw [Plan.needs, hforce, hhas]
      rfl
    exact spares_install hos hthere _ _ (probed_account hknown _ s) (leads_account host _ s)

/-- A second run, on a host that has got the tools from the first. -/
theorem install_converges_equipped :
    ((Sequence.install developerContext).perform (obliging equipped) ()).1 = .ok ()
      ∧ (∃ kept,
          kept.Sublist ((Sequence.install developerContext).account (obliging fun _ => none)
            ()).runnerCalls
          ∧ List.Forall₂ (Renaming.likeness {}).Requests kept
              ((Sequence.install developerContext).account (obliging equipped) ()).runnerCalls)
      ∧ ∀ e ∈ (Sequence.install developerContext).account (obliging equipped) (),
          developerContext.Spares e.request := by
  have hok : ((Sequence.install developerContext).perform (obliging fun _ => none) ()).1
      = .ok () := by decide +kernel
  obtain ⟨hmore, hequipped⟩ := install_converges {} developerContext rfl rfl
  obtain ⟨hresult, hkept⟩ := hmore Unit Unit (fun _ => none) equipped (obliging fun _ => none)
    (obliging equipped) () () (fun _ _ => rfl) (fun _ _ => rfl) (fun _ h => by cases h) rfl
    Likeness.sameReplies_obliging hok
  exact ⟨hresult, hkept, hequipped Unit equipped (obliging equipped) () (fun _ _ => rfl) rfl rfl
    rfl⟩

end Provision
