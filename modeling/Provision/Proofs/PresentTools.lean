/-
  Provision.Proofs.PresentTools
  ─────────────────────────────
  **WHAT IS THERE IS LEFT ALONE.**

  Unless the run installs again what is there, a step that looks for its tool
  and finds it is done: it succeeds, runs nothing, captures nothing and
  downloads nothing.  The steps differ in who looks.  Most of them go through
  `whenNeeded`; on Windows the JDK is looked for directly and the other tools
  not at all.

  One step does not look first.  On macOS Node.js is relinked whatever is
  there, so that a run goes through Homebrew even where `node` is found.

  Main results:

    `spared_ensure`     every other step is spared by a first look that finds its tool
    `ensure_present`    which steps leave alone what is there, on any host
-/
import Provision.Host.Script
import Provision.Proofs.Plan

namespace Provision

open Procedure

namespace Procedure

/-! ## §1. Steps that look first. -/

/-- The step succeeds without a call, unless it begins with a look for the tool
that finds nothing. -/
def SparedBy (tool : String) (p : Procedure Unit) : Prop :=
  ∀ (E : Account) r, p.Leads E r → (∀ x, E.head? = some ⟨.locate tool, x⟩ → x.isSome = true) →
    r = .ok () ∧ ∀ e ∈ E, e.request.isCall = false

/-- A single request that is no call is spared whatever is there. -/
theorem spared_quiet {q : Request} (tool : String) (hq : q.isCall = false) :
    SparedBy tool (.ask q fun _ => .done ()) := by
  intro E r hleads _
  obtain ⟨hquiet, hr⟩ := leads_quiet hq hleads
  exact ⟨hr, hquiet⟩

end Procedure

section Steps

variable {ctx : Context}

/-- **A tool that is found is not installed**, unless it is installed again. -/
theorem spared_whenNeeded (hforce : ctx.config.force = false) (kind : Prerequisite)
    (install : Procedure Unit) : (ctx.whenNeeded kind install).SparedBy kind.binary := by
  intro E r hleads hfirst
  rw [Context.whenNeeded_eq] at hleads
  rcases leads_bind.mp hleads with ⟨e, hlook, -⟩ | ⟨needed, E₁, E₂, rfl, hlook, hrest⟩
  · obtain ⟨_, _, _, hresult⟩ := leads_needsInstall_found hlook
    cases hresult
  obtain ⟨found, hhead, hquiet, hresult⟩ := leads_needsInstall_found hlook
  have hfound : found.isSome = true := hfirst found (by rw [List.head?_append, hhead]; rfl)
  -- With the tool there and no wish to install it again, nothing is needed.
  have hneeded : needed = false := by
    rw [Except.ok.inj hresult, hforce, Bool.false_or, Option.isNone_eq_false_iff]
    exact hfound
  subst hneeded
  obtain ⟨rfl, rfl⟩ := leads_done.mp hrest
  rw [List.append_nil]
  exact ⟨rfl, hquiet⟩

theorem spared_requireJdk (hforce : ctx.config.force = false) :
    (Prerequisites.requireJdk ctx).SparedBy "javac" := by
  intro E r hleads hfirst
  obtain ⟨found, F, rfl, hrest⟩ := leads_ask.mp hleads
  obtain ⟨path, rfl⟩ := Option.isSome_iff_exists.mp (hfirst found rfl)
  change (if ctx.config.force then _ else Procedure.done ()).Leads F r at hrest
  rw [hforce, if_neg Bool.false_ne_true] at hrest
  obtain ⟨rfl, rfl⟩ := leads_done.mp hrest
  refine ⟨rfl, fun e he => ?_⟩
  rw [List.mem_singleton.mp he]
  rfl

/-- **Every step but one is spared by what is there.** -/
theorem spared_ensure (hforce : ctx.config.force = false) {kind : Prerequisite}
    (h : ¬ (ctx.target.os = .macOS ∧ kind = .jsRuntime)) :
    (Prerequisites.ensure ctx kind).SparedBy kind.binary := by
  unfold Prerequisites.ensure
  cases hos : ctx.target.os with
  | linux =>
      cases kind with
      | downloadUtility => exact spared_whenNeeded hforce .downloadUtility _
      | jsRuntime =>
          unfold NodeJs.install
          rw [hos]
          exact spared_whenNeeded hforce .jsRuntime _
      | javaCompiler => exact spared_whenNeeded hforce .javaCompiler _
  | macOS =>
      cases kind with
      | downloadUtility => exact spared_whenNeeded hforce .downloadUtility _
      | jsRuntime => exact absurd ⟨hos, rfl⟩ h
      | javaCompiler => exact spared_whenNeeded hforce .javaCompiler _
  | windows =>
      cases kind with
      | downloadUtility => exact spared_quiet _ rfl
      | jsRuntime => exact spared_quiet _ rfl
      | javaCompiler => exact spared_requireJdk hforce

/-! ## §2. The step that does not look first. -/

/-- The command that takes the formula out of the way that is there. -/
def unlinkNode : Command := ⟨"brew", ["unlink", "node"], none⟩

/-- The command that installs the pinned formula. -/
def installNode (ctx : Context) : Command := ⟨"brew", ["install", ctx.settings.nodeFormula], none⟩

/-- Whatever the look finds, the next thing is a command: the formula that is
there is unlinked, or else the pinned one is installed. -/
theorem commands_relinkFormula {E : Account} {r : Except Failure Unit}
    (h : (NodeJs.relinkFormula ctx).Leads E r) :
    E.commands.head? = some unlinkNode ∨ E.commands.head? = some (installNode ctx) := by
  rw [NodeJs.relinkFormula_eq] at h
  obtain ⟨_, F, rfl, hlook⟩ := leads_ask.mp h
  obtain ⟨found, G, rfl, hrest⟩ := leads_ask.mp hlook
  cases found with
  | none =>
      obtain ⟨_, _, rfl, -⟩ := leads_ask.mp hrest
      exact .inr rfl
  | some path =>
      obtain ⟨_, _, rfl, -⟩ := leads_ask.mp hrest
      exact .inl rfl

end Steps

/-! ## §3. Any host. -/

/-- **What is there is left alone**, whatever the host answers, by every step
but that for Node.js on macOS; that one goes through Homebrew. -/
theorem ensure_present {σ : Type} (host : Host σ) (ctx : Context) (kind : Prerequisite) (s : σ)
    (hforce : ctx.config.force = false)
    (hthere : (host (.locate kind.binary) s).1.isSome = true) :
    let step := Prerequisites.ensure ctx kind
    (¬ (ctx.target.os = .macOS ∧ kind = .jsRuntime) →
        (step.perform host s).1 = .ok () ∧ ∀ e ∈ step.account host s, e.request.isCall = false)
      ∧ (ctx.target.os = .macOS ∧ kind = .jsRuntime →
        (step.account host s).commands.head? = some unlinkNode
          ∨ (step.account host s).commands.head? = some (installNode ctx)) := by
  intro step
  have hleads := leads_account host step s
  constructor
  · intro h
    refine spared_ensure hforce h _ _ hleads fun x hx => ?_
    rw [head_account hx]
    exact hthere
  · rintro ⟨hos, rfl⟩
    have hstep : step = NodeJs.relinkFormula ctx := by
      show Prerequisites.ensure ctx .jsRuntime = _
      unfold Prerequisites.ensure NodeJs.install
      rw [hos]
    rw [hstep] at hleads ⊢
    exact commands_relinkFormula hleads

/-- A compiler that is there spares a production host everything. -/
theorem ensure_present_compiler :
    let host := ({ present := ["javac"] } : Script).host
    let ctx : Context := { (default : Context) with target := ⟨.linux, some "sudo"⟩ }
    ((Prerequisites.ensure ctx .javaCompiler).perform host {}).1 = .ok ()
      ∧ ∀ e ∈ (Prerequisites.ensure ctx .javaCompiler).account host {},
          e.request.isCall = false :=
  (ensure_present _ _ .javaCompiler _ rfl rfl).1 fun h => by cases h.2

/-- **Node.js is relinked although it is there**: on macOS a run that finds
`node` and does not install again what is there runs three commands. -/
theorem ensure_relinks_present :
    let host := ({ present := ["node"] } : Script).host
    let ctx : Context := { (default : Context) with target := ⟨.macOS, none⟩ }
    (ctx.config.force = false ∧ (host (.locate Prerequisite.jsRuntime.binary) {}).1.isSome = true)
      ∧ ¬ (((Prerequisites.ensure ctx .jsRuntime).perform host {}).1 = .ok ()
        ∧ ∀ e ∈ (Prerequisites.ensure ctx .jsRuntime).account host {},
            e.request.isCall = false)
      ∧ ((Prerequisites.ensure ctx .jsRuntime).account host {}).commands
        = [unlinkNode, installNode ctx, ⟨"brew", ["link", "--overwrite", "node@14"], none⟩] := by
  refine ⟨⟨rfl, rfl⟩, ?_, by decide +kernel⟩
  rintro ⟨-, hquiet⟩
  revert hquiet
  decide +kernel

end Provision
