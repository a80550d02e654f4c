/-
  Provision.Proofs.LessWork
  ─────────────────────────
  **A RUN WITH LESS TO DO.**

  What a run has to do depends on the tools that are there and on whether it
  installs again what is there.  Let two runs differ in that alone, and let the
  second have no step to do that the first is spared.  As long as both get the
  same replies, the second succeeds wherever the first does: whatever it asks
  for, the first has asked for it and got a good reply.

  Main results:

    `Follows.andThen`      a success is passed on from part to part
    `follows_whenNeeded`   a step that is not done cannot fail
    `follows_install`      a run with less to do succeeds where the other does
    `lighter_calls`        and makes the calls of its own plan
-/
import Provision.Proofs.Asked
import Provision.Proofs.Plan
import Provision.Proofs.Replay
import Provision.Proofs.UnsupportedPair

namespace Provision

open Procedure

/-! ## §1. The same replies. -/

/-- Wherever the two accounts hold alike requests, the answers are alike; only
on the search path may other things be found. -/
def Likeness.SameReplies (L : Likeness) (E F : Account) : Prop :=
  ∀ e ∈ E, ∀ f ∈ F, (∀ tool, e.request ≠ .locate tool) → L.Requests e.request f.request →
    L.Answers e f

/-- Parts of accounts with the same replies have the same replies. -/
theorem Likeness.SameReplies.mono {L : Likeness} {E E' F F' : Account}
    (h : L.SameReplies E F) (hE : E' ⊆ E) (hF : F' ⊆ F) : L.SameReplies E' F' :=
  fun e he f hf => h e (hE he) f (hF hf)

/-- Hosts that answer alike at all times give the same replies. -/
theorem Likeness.sameReplies_account {L : Likeness} {σ τ : Type} {host : Host σ} {host' : Host τ}
    (h : ∀ (q r : Request) (s : σ) (t : τ), (∀ tool, q ≠ .locate tool) → L.Requests q r →
      L.Answers ⟨q, (host q s).1⟩ ⟨r, (host' r t).1⟩)
    {p q : Procedure Unit} {s : σ} {t : τ} :
    L.SameReplies (p.account host s) (q.account host' t) := by
  rintro ⟨r, x⟩ he ⟨r', x'⟩ hf hsearch hr
  obtain ⟨s', hx⟩ := answer_account he
  obtain ⟨t', hx'⟩ := answer_account hf
  change x = (host r s').1 at hx
  change x' = (host' r' t').1 at hx'
  subst hx hx'
  exact h r r' s' t' hsearch hr

/-- Obliging hosts do, whatever tools are there. -/
theorem Likeness.sameReplies_obliging {L : Likeness} {known known' : String → Option Path}
    {p q : Procedure Unit} :
    L.SameReplies (p.account (obliging known) ()) (q.account (obliging known') ()) := by
  refine Likeness.sameReplies_account fun q r s t hsearch hr => ?_
  cases hr with
  | run _ => exact .ok trivial
  | capture _ => exact rfl
  | fetch _ => exact .ok trivial
  | locate tool => exact absurd rfl (hsearch tool)
  | createFile hpath => exact .ok hpath
  | createDirectory hpath => exact .ok hpath
  | discard _ => exact trivial
  | doesExist _ => exact rfl
  | read _ => exact rfl
  | tell _ => exact trivial
  | log _ _ => exact trivial

namespace Procedure

variable {L : Likeness} {known known' : String → Option Path}

/-- Where `p` succeeds, with the known tools, `q` does with those known to it. -/
def Follows (L : Likeness) (known known' : String → Option Path) (p q : Procedure Unit) : Prop :=
  ∀ E F y, E.Probed known → F.Probed known' → L.SameReplies E F → p.Leads E (.ok ()) →
    q.Leads F y → y = .ok ()

/-- **A success is passed on from part to part.** -/
theorem Follows.andThen {p p' q q' : Procedure Unit} (hp : p.Follows L known known' q)
    (hp' : p'.Follows L known known' q') :
    (p.bind fun _ => p').Follows L known known' (q.bind fun _ => q') := by
  intro E F y hE hF hreplies h h'
  obtain ⟨_, E₁, E₂, rfl, h₁, h₂⟩ := leads_bind_ok h
  obtain ⟨hE₁, hE₂⟩ := probed_append hE
  rcases leads_bind.mp h' with ⟨e, he, rfl⟩ | ⟨_, F₁, F₂, rfl, -, h₂'⟩
  · -- The first part does not fail.
    have hok := hp E₁ F _ hE₁ hF
      (hreplies.mono (List.subset_append_left ..) (List.Subset.refl _)) h₁ he
    cases hok
  · exact hp' E₂ F₂ y hE₂ (probed_append hF).2
      (hreplies.mono (List.subset_append_right ..) (List.subset_append_right ..)) h₂ h₂'

/-- A step that does nothing succeeds. -/
theorem follows_done (p : Procedure Unit) : p.Follows L known known' (.done ()) := by
  intro E F y _ _ _ _ h
  exact (leads_done.mp h).2

/-- A step that is left out in both runs fails in neither. -/
theorem Follows.when {p q : Procedure Unit} (h : p.Follows L known known' q) (c : Bool) :
    (when c p).Follows L known known' (when c q) := by
  cases c with
  | false => exact follows_done _
  | true => exact h

/-- The searches that find the same in both runs are the only ones. -/
abbrev SearchesAlike (known known' : String → Option Path) (r : Request) : Prop :=
  ∀ tool, r = .locate tool → known' tool = known tool

/-- Only looks at the search path are asked about. -/
theorem lenient_searches : Lenient (SearchesAlike known known') :=
  fun _ _ hr tool h => absurd h (hr tool)

end Procedure

/-- Alike parts succeed together if they find the same tools. -/
theorem Likeness.Procedures.follows {p q : Procedure Unit} (h : L.Procedures Eq p q)
    (hasks : p.Asks (SearchesAlike known known')) : p.Follows L known known' q := by
  intro E F y hE hF hreplies hp hq
  have hag : L.Agree E F := by
    intro e he f hf hr
    -- A look at the search path finds the same by assumption; every other request gets
    -- the same reply.
    by_cases hlocate : ∃ tool, e.request = .locate tool
    · obtain ⟨tool, htool⟩ := hlocate
      have hsame := hasks E _ hp e he tool htool
      obtain ⟨q, x⟩ := e
      obtain ⟨r, z⟩ := f
      change q = .locate tool at htool
      subst htool
      cases hr
      show x = z
      rw [hE tool x he, hF tool z hf, hsame]
    · exact hreplies e he f hf (fun tool htool => hlocate ⟨tool, htool⟩) hr
  cases (h.lockstep hp hq hag).2
  rfl

/-! ## §2. Less to do. -/

/-- The context of a run that installs again what is there, or of one that does
not. -/
def Context.forcing (ctx : Context) (force : Bool) : Context :=
  { ctx with config := { ctx.config with force := force } }

theorem forcing_os (ctx : Context) (force : Bool) :
    (ctx.forcing force).target.os = ctx.target.os := rfl

/-- The second run, with its own tools, has no step to do that the first one is
spared, and what is asked for the presence of a tool alone goes the same way. -/
structure Lighter (ctx : Context) (force : Bool) (known : String → Option Path) (force' : Bool)
    (known' : String → Option Path) : Prop where
  needs : ∀ tool, Plan.needs (ctx.forcing force') (Known known') tool = true →
    Plan.needs (ctx.forcing force) (Known known) tool = true
  index : force' = true → force = true
  conda : Known known' "conda" = Known known "conda"
  node : ctx.target.os = .macOS → Known known' "node" = Known known "node"
  compiler : ctx.target.os = .windows → Known known "javac" = true → Known known' "javac" = true

section Steps

variable {L : Likeness} {ctx : Context} {force force' : Bool} {known known' : String → Option Path}

/-- The question whether a tool has to be installed is always answered. -/
theorem needsInstall_ok {kind : Prerequisite} {E : Account} {r : Except Failure Bool}
    (h : (ctx.needsInstall kind).Leads E r) : ∃ needed, r = .ok needed := by
  obtain ⟨found, -, -, hr⟩ := leads_needsInstall_found h
  exact ⟨_, hr⟩

/-- **A step that is not done cannot fail**, and one that is done is done in both
runs. -/
theorem follows_whenNeeded (hless : Lighter ctx force known force' known')
    (kind : Prerequisite) {p q : Procedure Unit} (h : p.Follows L known known' q) :
    ((ctx.forcing force).whenNeeded kind p).Follows L known known'
      ((ctx.forcing force').whenNeeded kind q) := by
  intro E F y hE hF hreplies hp hq
  rw [Context.whenNeeded_eq] at hp hq
  obtain ⟨needed, E₁, E₂, rfl, hp₁, hp₂⟩ := leads_bind_ok hp
  obtain ⟨hE₁, hE₂⟩ := probed_append hE
  rcases leads_bind.mp hq with ⟨e, he, rfl⟩ | ⟨needed', F₁, F₂, rfl, hq₁, hq₂⟩
  · obtain ⟨_, hok⟩ := needsInstall_ok he
    cases hok
  · obtain ⟨hF₁, hF₂⟩ := probed_append hF
    cases needed' with
    | false => exact (leads_done.mp hq₂).2
    | true =>
        have hneeded : needed = true :=
          (leads_needsInstall hE₁ hp₁).1.trans (hless.needs _ (leads_needsInstall hF₁ hq₁).1.symm)
        subst hneeded
        exact h E₂ F₂ y hE₂ hF₂
          (hreplies.mono (List.subset_append_right ..) (List.subset_append_right ..)) hp₂ hq₂

/-- What is done where a tool is present is done in both runs or in neither. -/
theorem follows_whenPresent {tool : String} (hsame : Known known' tool = Known known tool)
    {p q : Procedure Unit} (h : p.Follows L known known' q) :
    ((locate tool).bind fun found => when found.isSome p).Follows L known known'
      ((locate tool).bind fun found => when found.isSome q) := by
  intro E F y hE hF hreplies hp hq
  obtain ⟨found, E', rfl, hp'⟩ := leads_ask.mp hp
  obtain ⟨found', F', rfl, hq'⟩ := leads_ask.mp hq
  have hfound : found = known tool := hE _ _ (List.mem_cons_self ..)
  have hfound' : found' = known' tool := hF _ _ (List.mem_cons_self ..)
  have hpresent : found'.isSome = found.isSome := by rw [hfound, hfound']; exact hsame
  change (when found'.isSome q).Leads F' y at hq'
  rw [hpresent] at hq'
  exact h.when found.isSome E' F' y (fun t x hx => hE t x (List.mem_cons_of_mem _ hx))
    (fun t x hx => hF t x (List.mem_cons_of_mem _ hx))
    (hreplies.mono (List.subset_cons_self ..) (List.subset_cons_self ..)) hp' hq'

theorem searches_run (c : Command) : SearchesAlike known known' (.run c) := by
  intro tool h
  cases h

/-- The same command gets the same reply. -/
theorem follows_run (c : Command) : (run c).Follows L known known' (run c) :=
  (Likeness.alike_run (Likeness.command_refl c)).follows (asks_run (searches_run c))

theorem follows_step (text : String) : (step text).Follows L known known' (step text) :=
  (Likeness.alike_step text).follows (asks_step lenient_searches text)

theorem follows_log (level : LogLevel) (source : LogSource) (text : String) :
    (log level source text).Follows L known known' (log level source text) :=
  Likeness.alike_log.follows (asks_log lenient_searches _ _ _)

/-! ## §3. The steps of two runs. -/

/-- Node.js from its script, once both runs install it. -/
theorem follows_installFromSource :
    (NodeJs.installFromSource (ctx.forcing force)).Follows L known known'
      (NodeJs.installFromSource (ctx.forcing force')) := by
  -- The step does not ask whether it is done again.
  have halike := Likeness.alike_installFromSource (L := L)
    (Likeness.contexts_refl (ctx.forcing force))
  exact halike.follows (asks_installFromSource lenient_searches (fun _ h => by cases h)
    (fun _ => searches_run _) (searches_run _))

/-- On macOS the old Node.js is there for both runs or for neither, so both
unlink it or neither does. -/
theorem follows_relinkFormula (hless : Lighter ctx force known force' known')
    (hos : ctx.target.os = .macOS) :
    (NodeJs.relinkFormula (ctx.forcing force)).Follows L known known'
      (NodeJs.relinkFormula (ctx.forcing force')) := by
  rw [NodeJs.relinkFormula_eq, NodeJs.relinkFormula_eq]
  have hunlink : NodeJs.unlinkPresent.Follows L known known' NodeJs.unlinkPresent :=
    follows_whenPresent (hless.node hos) (follows_run _)
  exact (follows_step _).andThen (hunlink.andThen ((follows_run _).andThen (follows_run _)))

/-- Node.js on each system. -/
theorem follows_installNode (hless : Lighter ctx force known force' known') :
    (NodeJs.install (ctx.forcing force)).Follows L known known'
      (NodeJs.install (ctx.forcing force')) := by
  unfold NodeJs.install
  rw [forcing_os, forcing_os]
  cases hos : ctx.target.os with
  | linux => exact follows_whenNeeded hless _ follows_installFromSource
  | macOS => exact follows_relinkFormula hless hos
  | windows => exact follows_log _ _ _

/-- The JDK on macOS, which takes an answer of Homebrew. -/
theorem follows_installJdkFormula (hless : Lighter ctx force known force' known') :
    (Prerequisites.installJdkFormula (ctx.forcing force)).Follows L known known'
      (Prerequisites.installJdkFormula (ctx.forcing force')) := by
  have halike := Likeness.alike_brewJdk (L := L) (Likeness.contexts_refl (ctx.forcing force))
  rw [Prerequisites.installJdkFormula_eq, Prerequisites.installJdkFormula_eq]
  exact follows_whenNeeded hless _ (halike.follows (asks_brewJdk lenient_searches
    (fun _ h => by cases h) (searches_run _)))

/-- **On Windows a JDK is required**: it is there for the second run if it is
for the first. -/
theorem follows_requireJdk (hless : Lighter ctx force known force' known')
    (hos : ctx.target.os = .windows) :
    (Prerequisites.requireJdk (ctx.forcing force)).Follows L known known'
      (Prerequisites.requireJdk (ctx.forcing force')) := by
  intro E F y hE hF _ hp hq
  obtain ⟨found, E', rfl, hp'⟩ := leads_ask.mp hp
  obtain ⟨found', F', rfl, hq'⟩ := leads_ask.mp hq
  have hfound : found = known "javac" := hE _ _ (List.mem_cons_self ..)
  have hfound' : found' = known' "javac" := hF _ _ (List.mem_cons_self ..)
  -- A success of the first run has found a compiler.
  cases found with
  | none => cases (leads_fail.mp hp').2
  | some path =>
      have hpresent := hless.compiler hos (by rw [Known, ← hfound]; rfl)
      rw [Known, ← hfound'] at hpresent
      cases found' with
      | none => cases hpresent
      | some path' =>
          change (if (ctx.forcing force').config.force then _ else _ : Procedure Unit).Leads F' y
            at hq'
          split at hq'
          · obtain ⟨_, G, rfl, hdone⟩ := leads_ask.mp hq'
            exact (leads_done.mp hdone).2
          · exact (leads_done.mp hq').2

/-- Every tool on every system. -/
theorem follows_ensure (hless : Lighter ctx force known force' known') (kind : Prerequisite) :
    (Prerequisites.ensure (ctx.forcing force) kind).Follows L known known'
      (Prerequisites.ensure (ctx.forcing force') kind) := by
  unfold Prerequisites.ensure
  rw [forcing_os, forcing_os]
  cases hos : ctx.target.os with
  | linux =>
      cases kind with
      | jsRuntime => exact follows_installNode hless
      | _ => exact follows_whenNeeded hless _ ((follows_step _).andThen (follows_run _))
  | macOS =>
      cases kind with
      | downloadUtility =>
          exact follows_whenNeeded hless _ ((follows_step _).andThen (follows_run _))
      | jsRuntime => exact follows_installNode hless
      | javaCompiler => exact follows_installJdkFormula hless
  | windows =>
      cases kind with
      | javaCompiler => exact follows_requireJdk hless hos
      | _ => exact follows_log _ _ _

/-- The package lists are brought up to date only by a run that installs again. -/
theorem follows_prepare (hless : Lighter ctx force known force' known') :
    (Sequence.prepare (ctx.forcing force)).Follows L known known'
      (Sequence.prepare (ctx.forcing force')) := by
  rw [Sequence.prepare_eq, Sequence.prepare_eq, forcing_os, forcing_os]
  change (when (ctx.target.os == .linux && force) _).Follows L known known'
    (when (ctx.target.os == .linux && force') _)
  -- Only a second run that installs again has anything to do here, and then the first
  -- one does as well.
  cases force' with
  | false =>
      rw [Bool.and_false]
      exact follows_done _
  | true =>
      rw [hless.index rfl]
      exact ((follows_step _).andThen (follows_run _)).when _

/-- The developer steps, of which the last two look for no tool. -/
theorem follows_developerTools (hless : Lighter ctx force known force' known') :
    (Sequence.developerTools (ctx.forcing force)).Follows L known known'
      (Sequence.developerTools (ctx.forcing force')) := by
  have htooling := Likeness.alike_installTooling (L := L)
    (Likeness.contexts_refl (ctx.forcing force))
  have hbuild := Likeness.alike_nativeBuild (L := L)
    (Likeness.contexts_refl (ctx.forcing force)) ctx.settings.nativeLibrary
  rw [Sequence.developerTools_eq, Sequence.developerTools_eq]
  refine (follows_ensure hless _).andThen ((follows_installNode hless).andThen
    (Follows.andThen ?tooling (Follows.when ?build _)))
  case tooling => exact htooling.follows (asks_installTooling lenient_searches (searches_run _))
  case build => exact hbuild.follows (asks_nativeBuild lenient_searches fun _ _ _ => searches_run _)

/-- The package step, which an unsupported accelerator ends in both runs. -/
theorem follows_packages (hless : Lighter ctx force known force' known')
    (a : Option Accelerator) (requirements : Path) (nightly : Bool) :
    (PythonPackages.install (ctx.forcing force) a requirements nightly).Follows L known known'
      (PythonPackages.install (ctx.forcing force') a requirements nightly) := by
  unfold PythonPackages.install
  rw [forcing_os, forcing_os]
  cases hu : PythonPackages.unsupported? ctx.target.os a with
  | some e =>
      rw [PythonPackages.installFor_unsupported hu]
      intro E F y _ _ _ hp
      cases (leads_fail.mp hp).2
  | none =>
      rw [PythonPackages.installFor_pipSteps hu, PythonPackages.installFor_pipSteps hu]
      have hconda : PythonPackages.condaBuild.Follows L known known' PythonPackages.condaBuild :=
        follows_whenPresent hless.conda ((follows_step _).andThen (follows_run _))
      have hpip := Likeness.alike_pipSteps (L := L) (Likeness.contexts_refl (ctx.forcing force))
        ctx.target.os a requirements nightly
      exact hconda.andThen (hpip.follows (asks_pipSteps lenient_searches _ _ _ _ fun _ =>
        searches_run _))

/-- **A run with less to do succeeds where the other does.** -/
theorem follows_install (hless : Lighter ctx force known force' known') :
    (Sequence.install (ctx.forcing force)).Follows L known known'
      (Sequence.install (ctx.forcing force')) := by
  have hinterpreter : (Sequence.interpreter (ctx.forcing force)).Follows L known known'
      (Sequence.interpreter (ctx.forcing force')) :=
    (Likeness.alike_interpreter (Likeness.contexts_refl (ctx.forcing force))).follows
      (asks_interpreter lenient_searches fun _ h => by cases h)
  rw [Sequence.install_eq, Sequence.install_eq]
  exact (follows_log _ _ _).andThen (hinterpreter.andThen ((follows_prepare hless).andThen
    (((follows_developerTools hless).when _).andThen ((follows_ensure hless _).andThen
      (follows_packages hless _ _ _)))))

/-! ## §4. The calls of both runs. -/

/-- Calls to the runner are alike to themselves. -/
theorem runner_refl {calls : List Request} (h : ∀ r ∈ calls, r.toRunner = true) :
    List.Forall₂ L.Requests calls calls := by
  refine List.forall₂_same.mpr fun r hr => ?_
  have hrunner := h r hr
  cases r with
  | run c => exact .run (Likeness.command_refl c)
  | capture c => exact .capture c
  | _ => cases hrunner

/-- With another script in its place the plan for Node.js differs in the path of
the script only. -/
theorem node_places {has : String → Bool} {script script' : Path}
    (h : ctx.target.os = .linux → Plan.needs ctx has "node" = true → L.path script script') :
    List.Forall₂ L.Requests (Plan.node ctx has script) (Plan.node ctx has script') := by
  have hrun : ∀ c, L.Requests (.run c) (.run c) := fun c => .run (Likeness.command_refl c)
  unfold Plan.node
  cases hos : ctx.target.os with
  | linux =>
      dsimp only
      split
      · rename_i hneeds
        have hbash : L.Requests (.run (ctx.elevated "bash" [script.text]))
            (.run (ctx.elevated "bash" [script'.text])) :=
          .run (Likeness.elevated_of _ "bash" (.cons (h hos hneeds) .nil) .none)
        exact .cons hbash (.cons (hrun _) .nil)
      · exact .nil
  | macOS =>
      dsimp only
      split
      · exact .cons (hrun _) (.cons (hrun _) (.cons (hrun _) .nil))
      · exact .cons (hrun _) (.cons (hrun _) .nil)
  | windows => exact .nil

/-- In another directory the plan for the native library differs in that
directory only. -/
theorem nativeLibrary_places {dir dir' : Path} (h : ctx.target.os = .linux → L.path dir dir') :
    List.Forall₂ L.Requests (Plan.nativeLibrary ctx dir) (Plan.nativeLibrary ctx dir') := by
  cases hos : ctx.target.os with
  | linux =>
      have hcommands := Likeness.alike_buildCommands (L := L) (Likeness.contexts_refl ctx)
        ctx.settings.nativeLibrary (h hos)
      rw [Plan.nativeLibrary_linux hos, Plan.nativeLibrary_linux hos, List.forall₂_map_left_iff,
        List.forall₂_map_right_iff]
      exact hcommands.imp fun _ _ hc => .run hc
  | _ =>
      unfold Plan.nativeLibrary
      rw [hos]
      exact .nil

/-- A plan in other places is alike, if the places are. -/
theorem calls_places {has : String → Bool} {script script' dir dir' : Path}
    (hrunner : ∀ r ∈ Plan.calls ctx has script' dir', r.toRunner = true)
    (hscript : ctx.target.os = .linux → ctx.config.environment = .developer →
      Plan.needs ctx has "node" = true → L.path script script')
    (hdir : ctx.target.os = .linux → ctx.config.environment = .developer → L.path dir dir') :
    List.Forall₂ L.Requests (Plan.calls ctx has script dir) (Plan.calls ctx has script' dir') := by
  simp only [Plan.calls, List.forall_mem_append] at hrunner
  obtain ⟨⟨⟨⟨hinterpreter, hindex⟩, hdeveloper⟩, hjdk⟩, hpackages⟩ := hrunner
  have htools : List.Forall₂ L.Requests (Plan.developerTools ctx has script dir)
      (Plan.developerTools ctx has script' dir') := by
    unfold Plan.developerTools at hdeveloper ⊢
    cases henv : ctx.config.environment with
    | production => exact .nil
    | developer =>
        rw [henv] at hdeveloper
        simp only [beq_self_eq_true, if_true, List.forall_mem_append] at hdeveloper ⊢
        obtain ⟨⟨⟨hutility, -⟩, htooling⟩, -⟩ := hdeveloper
        exact List.rel_append (List.rel_append (List.rel_append (runner_refl hutility)
          (node_places fun hos => hscript hos henv)) (runner_refl htooling))
            (nativeLibrary_places fun hos => hdir hos henv)
  unfold Plan.calls
  exact List.rel_append (List.rel_append (List.rel_append (List.rel_append
    (runner_refl hinterpreter) (runner_refl hindex)) htools) (runner_refl hjdk))
      (runner_refl hpackages)

/-- **A run with less to do makes the calls of its own plan**, in the places of
the other run. -/
theorem lighter_calls (hless : Lighter ctx force known force' known') {E F : Account}
    {y : Except Failure Unit} (hE : E.Probed known) (hF : F.Probed known')
    (hreplies : L.SameReplies E F)
    (h : (Sequence.install (ctx.forcing force)).Leads E (.ok ()))
    (h' : (Sequence.install (ctx.forcing force')).Leads F y) :
    y = .ok () ∧ ∃ script dir,
      E.runnerCalls = Plan.calls (ctx.forcing force) (Known known) script dir
        ∧ List.Forall₂ L.Requests (Plan.calls (ctx.forcing force') (Known known') script dir)
            F.runnerCalls
        ∧ (ctx.target.os = .linux → ctx.config.environment = .developer →
            CreatedIn (ctx.forcing force) (Known known) E script dir) := by
  have hok := follows_install hless E F y hE hF hreplies h h'
  subst hok
  obtain ⟨script, dir, hcalls, hcreated⟩ := leads_install hE h
  obtain ⟨script', dir', hcalls', hcreated'⟩ := leads_install hF h'
  refine ⟨rfl, script, dir, hcalls, ?_, hcreated⟩
  rw [hcalls']
  refine calls_places ?_ ?_ ?_
  · rw [← hcalls']
    exact fun r hr => List.of_mem_filter hr
  · intro hos henv hneeds
    -- Both runs have created their scripts, and were answered alike.
    obtain ⟨body, -, hscript⟩ := (hcreated hos henv).script (hless.needs _ hneeds)
    obtain ⟨body', -, hscript'⟩ := (hcreated' hos henv).script hneeds
    have hanswers := hreplies _ hscript _ hscript' (fun _ h => by cases h)
      (.createFile (Likeness.path_refl _) _ _ _ _)
    cases hanswers with
    | ok hpath => exact hpath
  · intro hos henv
    have hanswers := hreplies _ (hcreated hos henv).directory _ (hcreated' hos henv).directory
      (fun _ h => by cases h) (.createDirectory (Likeness.path_refl _) _)
    cases hanswers with
    | ok hpath => exact hpath

end Steps

/-- The search path of a host with the tools of a developer's run. -/
def equipped : String → Option Path := locateAmong ["wget", "node", "javac"]

end Provision
