/-
  Provision.Proofs.Plan
  ─────────────────────
  **THE CALLS OF A SUCCESSFUL INSTALLATION.**

  The plan lists the calls to the runner in their order, with every text of
  theirs spelled out.  It is a function of the platform, the options, the
  settings and the tools that are there, and of the names that the host chose
  for what was created.  The runner only decides
  whether an installation succeeds; if it does, the plan is what was called
  and nothing else.

  Main results:

    `Makes.bind`          the calls of a sequence are those of its parts
    `makes_whenNeeded`    a tool is installed iff it is missing or forced
    `install_calls`       a successful installation makes the planned calls
-/
import Mathlib.Data.List.DropRight
import Provision.Host.Recorder
import Provision.Proofs.Parts

namespace Provision

open Procedure

/-! ## §1. The plan. -/

namespace Plan

variable (ctx : Context) (has : String → Bool)

/-- Does the tool have to be installed? -/
def needs (tool : String) : Bool := ctx.config.force || !has tool

/-- The interpreter is asked for its version, but not in a dry run. -/
def interpreter : List Request :=
  if ctx.config.dryRun then [] else [.capture ⟨ctx.settings.python, ["--version"], none⟩]

/-- The package index is refreshed where apt installs again what is there. -/
def packageIndex : List Request :=
  if ctx.target.os == .linux && ctx.config.force then
    [.run (ctx.elevated "apt-get" ["update"])]
  else []

/-- The download utility. -/
def downloadUtility : List Request :=
  match ctx.target.os with
  | .linux => if needs ctx has "wget" then
      [.run (ctx.elevated "apt-get" ["install", "-y", "wget"])] else []
  | .macOS => if needs ctx has "wget" then [.run ⟨"brew", ["install", "wget"], none⟩] else []
  | .windows => []

/-- Node.js: from the downloaded script, or as a formula that is linked in the
place of the one that is there. -/
def node (script : Path) : List Request :=
  let formula := "node@" ++ toString ctx.settings.nodeMajor.toNat
  match ctx.target.os with
  | .linux => if needs ctx has "node" then
      [.run (ctx.elevated "bash" [script.text]),
        .run (ctx.elevated "apt-get" ["install", "-y", "nodejs"])] else []
  | .macOS =>
      (if has "node" then [.run ⟨"brew", ["unlink", "node"], none⟩] else [])
        ++ [.run ⟨"brew", ["install", formula], none⟩,
          .run ⟨"brew", ["link", "--overwrite", formula], none⟩]
  | .windows => []

/-- The npm tools: a script of the project on macOS, npm elsewhere. -/
def tooling : List Request :=
  match ctx.target.os with
  | .macOS =>
      let root := ctx.config.projectRoot
      [.run (.elevated ctx.target.privilege (root.join ⟨ctx.settings.macNpmScript⟩).text []
        (some root))]
  | _ => [.run (ctx.elevated "npm" ("install" :: "-g" :: ctx.settings.npmPackages))]

/-- A template with the version in the place of each `{version}`, from left to
right. -/
def fill (version : List Char) : List Char → List Char
  | '{' :: 'v' :: 'e' :: 'r' :: 's' :: 'i' :: 'o' :: 'n' :: '}' :: rest =>
      version ++ fill version rest
  | c :: rest => c :: fill version rest
  | [] => []

/-- The native library, built in the directory `dir`. -/
def nativeLibrary (dir : Path) : List Request :=
  let library := ctx.settings.nativeLibrary
  let name := library.name ++ "-" ++ library.version
  let tarball := (dir.join ⟨name ++ ".tar.gz"⟩).text
  let source := some (dir.join ⟨name⟩)
  let address := String.ofList (fill library.version.toList library.urlTemplate.toList)
  if ctx.target.os == .linux then
    [.run ⟨"wget", [address, "-O", tarball], none⟩,
      .run ⟨"tar", ["-xzf", tarball, "-C", dir.text], none⟩,
      .run ⟨"cmake", ["."], source⟩,
      .run ⟨"make", [], source⟩,
      .run (.elevated ctx.target.privilege "make" ["install"] source)]
  else []

/-- The steps for a developer's host. -/
def developerTools (script dir : Path) : List Request :=
  if ctx.config.environment == .developer then
    downloadUtility ctx has ++ node ctx has script ++ tooling ctx ++ nativeLibrary ctx dir
  else []

/-- The JDK: Homebrew is asked for its version first. -/
def jdk : List Request :=
  let version := toString ctx.settings.jdkVersion.toNat
  match ctx.target.os with
  | .linux => if needs ctx has "javac" then
      [.run (ctx.elevated "apt-get" ["install", "-y", "openjdk-" ++ version ++ "-jdk"])] else []
  | .macOS => if needs ctx has "javac" then
      [.capture ⟨"brew", ["--version"], none⟩,
        .run ⟨"brew", ["install", "openjdk@" ++ version], none⟩] else []
  | .windows => []

/-- One command of the interpreter's pip. -/
def pip (arguments : List String) : Request :=
  .run ⟨ctx.settings.python, "-m" :: "pip" :: "install" :: arguments, none⟩

/-- The tag of the build of torch. -/
def build : Option Accelerator → String
  | none => "cpu"
  | some .cu92 => "cu92"
  | some .cu101 => "cu101"
  | some .cu102 => "cu102"
  | some .cu111 => "cu111"
  | some .cu113 => "cu113"
  | some .cu116 => "cu116"
  | some .cu117 => "cu117"
  | some .cu118 => "cu118"

/-- The requirements file of torch: the build without an accelerator has no tag
in its name. -/
def torchFile (os : Os) (a : Option Accelerator) : String :=
  let system := match os with
    | .linux => "linux"
    | .windows => "windows"
    | .macOS => "darwin"
  match a with
  | none => "requirements/torch_" ++ system ++ ".txt"
  | some _ => "requirements/torch_" ++ build a ++ "_" ++ system ++ ".txt"

/-- The requirements file of an environment. -/
def requirementsFile : Environment → String
  | .production => "requirements/production.txt"
  | .developer => "requirements/developer.txt"

/-- The index of the nightly build: the address without the slashes at its end,
one slash and the tag of the build. -/
def index (address : String) (a : Option Accelerator) : String :=
  String.ofList (address.toList.rdropWhile (· == '/')) ++ "/" ++ build a

/-- The Python packages, after conda's build tool where there is conda. -/
def packages : List Request :=
  let root := ctx.config.projectRoot
  let torch := torchFile ctx.target.os ctx.config.accelerator
  let requirements := requirementsFile ctx.config.environment
  (if has "conda" then [.run ⟨"conda", ["install", "-y", "conda-build"], none⟩] else [])
    ++ [pip ctx ["-U", "-r", (root.join ⟨torch⟩).text]]
    ++ (if ctx.settings.upgradePip then [pip ctx ["-U", "pip", "setuptools"]] else [])
    ++ [pip ctx ["-U", "-r", (root.join ⟨requirements⟩).text]]
    ++ (if ctx.config.nightly then
        [pip ctx ["numpy", "--pre", "torch[dynamo]", "torchvision", "torchtext", "torchaudio",
          "--force-reinstall", "--extra-index-url",
          index ctx.settings.nightlyIndexUrl ctx.config.accelerator]] else [])

/-- **The calls of a successful installation, in their order.** -/
def calls (script dir : Path) : List Request :=
  interpreter ctx ++ packageIndex ctx ++ developerTools ctx has script dir ++ jdk ctx has
    ++ packages ctx has

/-! ## §2. The texts of the plan. -/

/-- To fill in a template is to replace every place that is kept for the version. -/
theorem replaceFrom_fill (version cs : List Char) :
    Text.replaceFrom "\x7bversion\x7d".toList version 0 cs = fill version cs := by
  -- On the template as `fill` reads it: a place for the version, any other character,
  -- the end.
  induction cs using fill.induct with
  | case1 rest ih =>
      show version ++ Text.replaceFrom _ version 0 rest = version ++ fill version rest
      rw [ih]
  | case2 c rest hother ih =>
      -- The first character begins no such place, as the first case does not apply.
      have hnone : ("\x7bversion\x7d".toList).isPrefixOf (c :: rest) = false := by
        refine Bool.eq_false_iff.mpr fun hfirst => ?_
        obtain ⟨more, hmore⟩ := List.isPrefixOf_iff_prefix.mp hfirst
        obtain ⟨hc, hrest⟩ := List.cons.inj hmore
        exact hother more hc.symm hrest.symm
      unfold Text.replaceFrom
      rw [hnone, if_neg Bool.false_ne_true, ih, fill]
      exact hother
  | case3 => rfl

/-- The address of the tarball is its template, filled in. -/
theorem url_eq (l : NativeLibrary) :
    l.url = String.ofList (fill l.version.toList l.urlTemplate.toList) := by
  unfold NativeLibrary.url Text.replaceAll
  rw [replaceFrom_fill]

/-- The tag of a build, accelerator by accelerator. -/
theorem buildTag_eq (a : Option Accelerator) : buildTag a = build a := by
  rcases a with _ | a
  · rfl
  · cases a <;> rfl

/-- The requirements file of torch for every pair of a system and an
accelerator. -/
theorem torchRequirementsFile_eq (os : Os) (a : Option Accelerator) :
    PythonPackages.torchRequirementsFile os a = torchFile os a := by
  unfold PythonPackages.torchRequirementsFile torchFile
  cases a with
  | none => cases os <;> rfl
  | some a =>
      have htag : a.tag = build (some a) := buildTag_eq (some a)
      dsimp only
      rw [htag]
      cases os <;> rfl

/-- On Linux the planned commands are those of the build. -/
theorem nativeLibrary_linux {ctx : Context} (hos : ctx.target.os = .linux) (dir : Path) :
    nativeLibrary ctx dir
      = (NativeBuild.commands ctx.target.privilege ctx.settings.nativeLibrary dir).map .run := by
  unfold nativeLibrary
  dsimp only
  rw [hos, ← url_eq]
  rfl

theorem requirementsFile_eq (e : Environment) : e.requirementsFile = requirementsFile e := by
  cases e <;> rfl

/-- The index of the nightly build, without the slashes that the address may end
in. -/
theorem nightlyIndexFor_eq (s : Settings) (a : Option Accelerator) :
    s.nightlyIndexFor (buildTag a) = index s.nightlyIndexUrl a := by
  rw [buildTag_eq]
  rfl

end Plan

/-! ## §3. Procedures with known calls. -/

/-- The account of a host on which the search path holds these tools. -/
def Account.Probed (known : String → Option Path) (E : Account) : Prop :=
  ∀ tool x, ⟨.locate tool, x⟩ ∈ E → x = known tool

namespace Procedure

variable {σ α β : Type} {known : String → Option Path}

/-- On a host whose search path never changes every look finds what is known. -/
theorem probed_account {host : Host σ} (h : ∀ tool s, (host (.locate tool) s).1 = known tool)
    (p : Procedure α) (s : σ) : (p.account host s).Probed known := by
  induction p generalizing s with
  | done a => exact fun _ _ hmem => absurd hmem List.not_mem_nil
  | fail e => exact fun _ _ hmem => absurd hmem List.not_mem_nil
  | ask r k ih =>
      intro tool x hmem
      rcases List.mem_cons.mp hmem with heq | hmem
      · cases heq
        exact h tool s
      · exact ih _ _ tool x hmem

/-- Both parts of an account hold what is known. -/
theorem probed_append {E F : Account} (h : Account.Probed known (E ++ F)) :
    E.Probed known ∧ F.Probed known :=
  ⟨fun tool x hx => h tool x (List.mem_append_left _ hx),
    fun tool x hx => h tool x (List.mem_append_right _ hx)⟩

/-- Whenever the procedure succeeds, these were its calls. -/
def Makes (known : String → Option Path) (p : Procedure α) (calls : List Request) : Prop :=
  ∀ E a, Account.Probed known E → p.Leads E (.ok a) → E.runnerCalls = calls

/-- What is done already makes no call. -/
theorem makes_done (a : α) : (Procedure.done a).Makes known [] := by
  intro E b _ h
  obtain ⟨rfl, -⟩ := leads_done.mp h
  rfl

/-- A procedure that fails never succeeds. -/
theorem makes_fail (e : Failure) (calls : List Request) :
    (Procedure.fail e : Procedure α).Makes known calls := by
  intro E b _ h
  cases (leads_fail.mp h).2

/-- **The calls of a sequence are those of its parts.** -/
theorem Makes.bind {p : Procedure α} {f : α → Procedure β} {c d : List Request}
    (hp : p.Makes known c) (hf : ∀ a, (f a).Makes known d) :
    (p.bind f).Makes known (c ++ d) := by
  intro E b hE h
  obtain ⟨a, E₁, E₂, rfl, h₁, h₂⟩ := leads_bind_ok h
  obtain ⟨hE₁, hE₂⟩ := probed_append hE
  rw [Account.runnerCalls_append, hp E₁ a hE₁ h₁, hf a E₂ b hE₂ h₂]

/-- What goes on after a look at the search path goes on with what is there. -/
theorem makes_locate {tool : String} {f : Option Path → Procedure β} {d : List Request}
    (hf : (f (known tool)).Makes known d) : ((locate tool).bind f).Makes known d := by
  intro E b hE h
  obtain ⟨x, F, rfl, hk⟩ := leads_ask.mp h
  have hx : x = known tool := hE tool x (List.mem_cons_self ..)
  subst hx
  exact hf F b (fun tool y hy => hE tool y (List.mem_cons_of_mem _ hy)) hk

/-- A step on a condition makes its calls on that condition. -/
theorem Makes.when {p : Procedure Unit} {d : List Request} (hp : p.Makes known d) (c : Bool) :
    (when c p).Makes known (if c then d else []) := by
  cases c with
  | false => exact makes_done ()
  | true => exact hp

/-- A command that is run is one call. -/
theorem makes_run (c : Command) : (run c).Makes known [.run c] := by
  intro E a _ h
  obtain ⟨x, F, rfl, hk⟩ := leads_ask.mp h
  obtain ⟨rfl, -⟩ := leads_ofExcept.mp hk
  rfl

/-- A single request is a call if it goes to the runner. -/
theorem makes_request (r : Request) :
    (Procedure.ask r .done).Makes known (if r.toRunner then [r] else []) := by
  intro E a _ h
  obtain ⟨x, F, rfl, hk⟩ := leads_ask.mp h
  obtain ⟨rfl, -⟩ := leads_done.mp hk
  rw [Account.runnerCalls_cons]
  rfl

/-- Notices are no calls. -/
theorem makes_tell (n : Notice) : (tell n).Makes known [] := makes_request (.tell n)

theorem makes_step (text : String) : (step text).Makes known [] := makes_tell _

theorem makes_log (level : LogLevel) (source : LogSource) (text : String) :
    (log level source text).Makes known [] := makes_request (.log ⟨level, source, text⟩)

/-- A list of commands is as many calls, if it succeeds. -/
theorem makes_forM_run (cs : List Command) :
    (cs.forM run).Makes known (cs.map Request.run) := by
  induction cs with
  | nil => exact makes_done ()
  | cons c cs ih => exact (makes_run c).bind fun _ => ih

end Procedure

/-! ## §4. The calls of the steps. -/

section Steps

variable {known : String → Option Path} {ctx : Context}

/-- Is the tool among the known ones? -/
abbrev Known (known : String → Option Path) (tool : String) : Bool := (known tool).isSome

/-- The look is the first request, and what it finds decides. -/
theorem leads_needsInstall_found {kind : Prerequisite} {E : Account} {r : Except Failure Bool}
    (h : (ctx.needsInstall kind).Leads E r) :
    ∃ found, E.head? = some ⟨.locate kind.binary, found⟩
      ∧ (∀ e ∈ E, e.request.isCall = false) ∧ r = .ok (ctx.config.force || found.isNone) := by
  obtain ⟨found, F, rfl, hfound⟩ := leads_ask.mp h
  -- What comes after the look is one line, in the log or for the user.
  have hrest : (∀ e ∈ F, e.request.isCall = false)
      ∧ r = .ok (ctx.config.force || found.isNone) := by
    cases found with
    | none =>
        rw [Option.isNone_none, Bool.or_true]
        exact leads_quiet rfl hfound
    | some path =>
        rw [Option.isNone_some, Bool.or_false]
        change (if ctx.config.force then _ else _ : Procedure Bool).Leads F r at hfound
        split at hfound
        · rw [‹ctx.config.force = true›]
          exact leads_quiet rfl hfound
        · rw [Bool.eq_false_iff.mpr ‹¬ctx.config.force = true›]
          exact leads_quiet rfl hfound
  exact ⟨found, rfl, List.forall_mem_cons.mpr ⟨rfl, hrest.1⟩, hrest.2⟩

/-- **The search path decides whether a tool is needed**, and to decide it makes
no call. -/
theorem leads_needsInstall {kind : Prerequisite} {E : Account} {needed : Bool}
    (hE : E.Probed known) (h : (ctx.needsInstall kind).Leads E (.ok needed)) :
    needed = Plan.needs ctx (Known known) kind.binary ∧ E.runnerCalls = [] := by
  obtain ⟨found, hhead, hquiet, hneeded⟩ := leads_needsInstall_found h
  have hknown : found = known kind.binary := hE _ _ (List.mem_of_head? hhead)
  refine ⟨?_, Account.runnerCalls_of_quiet hquiet⟩
  rw [Except.ok.inj hneeded, hknown, Plan.needs, Known, Option.not_isSome]

/-- **A tool is installed iff it is missing or the run installs again.** -/
theorem makes_whenNeeded {kind : Prerequisite} {install : Procedure Unit} {d : List Request}
    (h : install.Makes known d) :
    (ctx.whenNeeded kind install).Makes known
      (if Plan.needs ctx (Known known) kind.binary then d else []) := by
  intro E a hE hleads
  -- The look at the search path is no call, and what it finds is known.
  rw [Context.whenNeeded_eq] at hleads
  obtain ⟨needed, E₁, E₂, rfl, h₁, h₂⟩ := leads_bind_ok hleads
  obtain ⟨hE₁, hE₂⟩ := probed_append hE
  obtain ⟨rfl, hcalls⟩ := leads_needsInstall hE₁ h₁
  rw [Account.runnerCalls_append, hcalls]
  exact h.when _ E₂ a hE₂ h₂

theorem makes_ask (c : Command) (p : Pattern) :
    (ToolVersion.ask c p).Makes known [.capture c] := by
  intro E a _ h
  obtain ⟨answer, F, rfl, -, hquiet⟩ := ToolVersion.leads_ask_version h
  rw [Account.runnerCalls_cons, Account.runnerCalls_of_quiet hquiet]
  rfl

theorem makes_interpreter : (Sequence.interpreter ctx).Makes known (Plan.interpreter ctx) := by
  unfold Sequence.interpreter Plan.interpreter
  split
  · exact makes_log _ _ _
  · refine Makes.bind (c := [.capture (ToolVersion.question ctx.settings.python)]) (d := [])
      ?_ ?_
    · exact (makes_ask _ _).bind fun _ => makes_done _
    · intro found
      cases found with
      | none => exact makes_fail _ _
      | some release =>
          show (if release.atLeast Sequence.oldestPython then _ else _ : Procedure _).Makes
            known []
          split
          · exact makes_log _ _ _
          · exact makes_fail _ _

theorem makes_prepare : (Sequence.prepare ctx).Makes known (Plan.packageIndex ctx) := by
  rw [Sequence.prepare_eq]
  exact ((makes_step _).bind fun _ => makes_run _).when _

/-- The download utility comes from apt or from Homebrew, and on Windows not at
all. -/
theorem makes_downloadUtility :
    (Prerequisites.ensure ctx .downloadUtility).Makes known
      (Plan.downloadUtility ctx (Known known)) := by
  unfold Prerequisites.ensure Plan.downloadUtility
  cases ctx.target.os with
  | linux => exact makes_whenNeeded ((makes_step _).bind fun _ => makes_run _)
  | macOS => exact makes_whenNeeded ((makes_step _).bind fun _ => makes_run _)
  | windows => exact makes_log _ _ _

/-- On macOS the old Node.js is unlinked if it is there; the new one is always
installed. -/
theorem makes_relinkFormula (h : ctx.target.os = .macOS) (script : Path) :
    (NodeJs.relinkFormula ctx).Makes known (Plan.node ctx (Known known) script) := by
  rw [NodeJs.relinkFormula_eq]
  unfold Plan.node
  rw [h]
  have hunlink : NodeJs.unlinkPresent.Makes known
      (if Known known "node" then [.run ⟨"brew", ["unlink", "node"], none⟩] else []) :=
    makes_locate ((makes_run _).when _)
  exact (makes_step _).bind fun _ => hunlink.bind fun _ => (makes_run _).bind fun _ =>
    makes_run _

/-- The tooling of the developers, which no condition guards. -/
theorem makes_tooling : (NodeJs.installTooling ctx).Makes known (Plan.tooling ctx) := by
  have h : [Request.run (NodeJs.toolingCommand ctx)] = Plan.tooling ctx := by
    unfold NodeJs.toolingCommand Plan.tooling
    cases ctx.target.os <;> rfl
  rw [← h]
  exact (makes_step _).bind fun _ => makes_run _

/-- **The JDK**: on macOS Homebrew is asked first, on Windows nothing is ever
installed. -/
theorem makes_jdk :
    (Prerequisites.ensure ctx .javaCompiler).Makes known (Plan.jdk ctx (Known known)) := by
  unfold Prerequisites.ensure Plan.jdk
  cases ctx.target.os with
  | linux => exact makes_whenNeeded ((makes_step _).bind fun _ => makes_run _)
  | macOS =>
      refine makes_whenNeeded (Makes.bind (c := [.capture (ToolVersion.question "brew")]) ?_ ?_)
      · exact (makes_ask _ _).bind fun _ => makes_done _
      · intro version
        show (if version == ToolVersion.notAvailable then _ else _ : Procedure _).Makes known _
        split
        · exact makes_fail _ _
        · exact (makes_log _ _ _).bind fun _ => (makes_step _).bind fun _ => makes_run _
  | windows =>
      show (Prerequisites.requireJdk ctx).Makes known []
      apply makes_locate
      cases known Prerequisite.javaCompiler.binary with
      | none => exact makes_fail _ _
      | some path =>
          show (if ctx.config.force then _ else _ : Procedure _).Makes known []
          split
          · exact makes_tell _
          · exact makes_done ()

/-- **The packages**: where the accelerator is not supported the step fails, so
that a success has installed all of them. -/
theorem makes_packages :
    (PythonPackages.install ctx ctx.config.accelerator ctx.config.requirementsPath
      ctx.config.nightly).Makes known (Plan.packages ctx (Known known)) := by
  unfold PythonPackages.install
  cases hu : PythonPackages.unsupported? ctx.target.os ctx.config.accelerator with
  | some e =>
      rw [PythonPackages.installFor_unsupported hu]
      exact makes_fail _ _
  | none =>
      rw [PythonPackages.installFor_eq hu]
      unfold Plan.packages
      simp only [List.append_assoc, ← Plan.torchRequirementsFile_eq, ← Plan.requirementsFile_eq,
        ← Plan.nightlyIndexFor_eq]
      have hconda : PythonPackages.condaBuild.Makes known
          (if Known known "conda" then [.run ⟨"conda", ["install", "-y", "conda-build"], none⟩]
            else []) :=
        makes_locate (((makes_step _).bind fun _ => makes_run _).when _)
      exact hconda.bind fun _ => ((makes_step _).bind fun _ => makes_run _).bind fun _ =>
        ((makes_run _).when _).bind fun _ =>
          ((makes_step _).bind fun _ => makes_run _).bind fun _ =>
            ((makes_step _).bind fun _ => makes_run _).when _

/-! ## §5. What is created on the way. -/

/-- The script at `script` holds what was downloaded. -/
def ScriptIn (ctx : Context) (E : Account) (script : Path) : Prop :=
  ∃ body, ⟨.fetch ctx.settings.nodesourceUrl, .ok body⟩ ∈ E ∧
    ⟨.createFile ctx.scratch "nodesource-setup" ".sh" body, .ok script⟩ ∈ E

theorem ScriptIn.mono {E F : Account} {script : Path} (h : ScriptIn ctx E script)
    (hEF : E ⊆ F) : ScriptIn ctx F script := by
  obtain ⟨body, hfetch, hfile⟩ := h
  exact ⟨body, hEF hfetch, hEF hfile⟩

/-- What a developer's installation on Linux creates on its way: the script, if
Node.js is installed, and the directory of the build. -/
structure CreatedIn (ctx : Context) (has : String → Bool) (E : Account) (script dir : Path) :
    Prop where
  script : Plan.needs ctx has "node" = true → ScriptIn ctx E script
  directory : ⟨.createDirectory ctx.scratch ctx.settings.nativeLibrary.dirName, .ok dir⟩ ∈ E

theorem CreatedIn.mono {has : String → Bool} {E F : Account} {script dir : Path}
    (h : CreatedIn ctx has E script dir) (hEF : E ⊆ F) : CreatedIn ctx has F script dir where
  script hneeds := (h.script hneeds).mono hEF
  directory := hEF h.directory

/-- A download that succeeds has fetched its address and called nothing. -/
theorem leads_download {url : String} {E : Account} {body : ByteArray}
    (h : (NodeJs.download url).Leads E (.ok body)) :
    E.runnerCalls = [] ∧ ⟨.fetch url, .ok body⟩ ∈ E := by
  obtain ⟨_, F, rfl, hfetch⟩ := leads_ask.mp h
  obtain ⟨x, G, rfl, hshow⟩ := leads_ask.mp hfetch
  cases x with
  | ok b =>
      obtain ⟨_, rfl, rfl⟩ := leads_ask_done hshow
      exact ⟨rfl, List.mem_cons_of_mem _ (List.mem_cons_self ..)⟩
  | error e =>
      obtain ⟨_, H, rfl, hend⟩ := leads_ask.mp hshow
      cases (leads_fail.mp hend).2

/-- The downloaded script is what runs. -/
theorem leads_installFromSource {E : Account} (hE : E.Probed known)
    (h : (NodeJs.installFromSource ctx).Leads E (.ok ())) :
    ∃ script, E.runnerCalls = [.run (ctx.elevated "bash" [script.text]),
        .run (ctx.elevated "apt-get" ["install", "-y", "nodejs"])]
      ∧ ScriptIn ctx E script := by
  obtain ⟨_, E₁, E₂, rfl, h₁, h₂⟩ := leads_bind_ok h
  obtain ⟨body, E₃, E₄, rfl, h₃, h₄⟩ := leads_bind_ok h₂
  rcases leads_withFile.mp h₄ with ⟨e, -, he⟩ | ⟨script, F, rfl, hF⟩
  -- Where the file cannot be created the step fails.
  · cases he
  · obtain ⟨hE₁, hE₂⟩ := probed_append hE
    have hFprobed : F.Probed known := fun tool x hx => hE₂ tool x
      (List.mem_append_right _ (List.mem_cons_of_mem _ (List.mem_append_left _ hx)))
    obtain ⟨hcalls, hfetch⟩ := leads_download h₃
    have hstep := makes_step _ E₁ _ hE₁ h₁
    have hrun := ((makes_run (ctx.elevated "bash" [script.text])).bind fun _ =>
      makes_run (ctx.elevated "apt-get" ["install", "-y", "nodejs"])) F () hFprobed hF
    refine ⟨script, ?_, body, ?_, ?_⟩
    · rw [Account.runnerCalls_append, Account.runnerCalls_append, hstep, hcalls,
        Account.runnerCalls_cons, Account.runnerCalls_append, hrun]
      rfl
    · exact List.mem_append_right _ (List.mem_append_left _ hfetch)
    · exact List.mem_append_right _ (List.mem_append_right _ (List.mem_cons_self ..))

/-- The calls of the Node.js step: on Linux they depend on the script. -/
theorem leads_node {E : Account} (hE : E.Probed known)
    (h : (NodeJs.install ctx).Leads E (.ok ())) :
    ∃ script, E.runnerCalls = Plan.node ctx (Known known) script
      ∧ (ctx.target.os = .linux → Plan.needs ctx (Known known) "node" = true →
          ScriptIn ctx E script) := by
  unfold NodeJs.install at h
  cases hos : ctx.target.os with
  | linux =>
      rw [hos] at h
      change (ctx.whenNeeded .jsRuntime (NodeJs.installFromSource ctx)).Leads E (.ok ()) at h
      rw [Context.whenNeeded_eq] at h
      obtain ⟨needed, E₁, E₂, rfl, h₁, h₂⟩ := leads_bind_ok h
      obtain ⟨hE₁, hE₂⟩ := probed_append hE
      obtain ⟨hneeded, hcalls⟩ := leads_needsInstall hE₁ h₁
      change needed = Plan.needs ctx (Known known) "node" at hneeded
      rw [Account.runnerCalls_append, hcalls]
      unfold Plan.node
      rw [hos, ← hneeded]
      cases needed with
      | false =>
          obtain ⟨rfl, -⟩ := leads_done.mp h₂
          exact ⟨⟨""⟩, rfl, fun _ h => by cases h⟩
      | true =>
          obtain ⟨script, hscript, hin⟩ := leads_installFromSource hE₂ h₂
          exact ⟨script, hscript, fun _ _ => hin.mono (List.subset_append_right ..)⟩
  -- Elsewhere there is no script, and any path stands for it.
  | macOS =>
      rw [hos] at h
      exact ⟨⟨""⟩, makes_relinkFormula hos _ E () hE h, fun h => by cases h⟩
  | windows =>
      rw [hos] at h
      unfold Plan.node
      rw [hos]
      exact ⟨⟨""⟩, makes_log _ _ _ E () hE h, fun h => by cases h⟩

/-- The calls of the build depend on the directory that was created for it. -/
theorem leads_nativeLibrary {E : Account} (hE : E.Probed known)
    (h : (when (ctx.target.os == .linux)
      (NativeBuild.install ctx ctx.settings.nativeLibrary)).Leads E (.ok ())) :
    ∃ dir, E.runnerCalls = Plan.nativeLibrary ctx dir
      ∧ (ctx.target.os = .linux →
          ⟨.createDirectory ctx.scratch ctx.settings.nativeLibrary.dirName, .ok dir⟩ ∈ E) := by
  cases hos : ctx.target.os with
  | linux =>
      rw [hos] at h
      change (NativeBuild.install ctx ctx.settings.nativeLibrary).Leads E (.ok ()) at h
      unfold NativeBuild.install at h
      rw [hos] at h
      rcases leads_withDirectory.mp h with ⟨e, -, he⟩ | ⟨dir, F, rfl, hF⟩
      · cases he
      · have hFprobed : F.Probed known := fun tool x hx =>
          hE tool x (List.mem_cons_of_mem _ (List.mem_append_left _ hx))
        have hcalls := ((makes_step _).bind fun _ => (makes_forM_run _).bind fun _ =>
          makes_tell _) F () hFprobed hF
        refine ⟨dir, ?_, fun _ => List.mem_cons_self ..⟩
        rw [Account.runnerCalls_cons, Account.runnerCalls_append, hcalls,
          Plan.nativeLibrary_linux hos]
        simp only [List.append_nil, List.nil_append]
        rfl
  -- Elsewhere nothing is built, and any path stands for the directory.
  | _ =>
      rw [hos] at h
      obtain ⟨rfl, -⟩ := leads_done.mp h
      unfold Plan.nativeLibrary
      rw [hos]
      exact ⟨⟨""⟩, rfl, fun h => by cases h⟩

/-- The calls of the steps for a developer's host. -/
theorem leads_developerTools {E : Account} (hE : E.Probed known)
    (h : (when ctx.config.isDev (Sequence.developerTools ctx)).Leads E (.ok ())) :
    ∃ script dir, E.runnerCalls = Plan.developerTools ctx (Known known) script dir
      ∧ (ctx.target.os = .linux → ctx.config.environment = .developer →
          CreatedIn ctx (Known known) E script dir) := by
  unfold Plan.developerTools
  cases hdev : ctx.config.environment with
  | production =>
      rw [InstallConfig.isDev_eq hdev] at h
      obtain ⟨rfl, -⟩ := leads_done.mp h
      exact ⟨⟨""⟩, ⟨""⟩, rfl, fun _ h => by cases h⟩
  | developer =>
      rw [InstallConfig.isDev_eq hdev] at h
      change (Sequence.developerTools ctx).Leads E (.ok ()) at h
      rw [Sequence.developerTools_eq] at h
      obtain ⟨_, E₁, F₁, rfl, h₁, hrest⟩ := leads_bind_ok h
      obtain ⟨_, E₂, F₂, rfl, h₂, hrest⟩ := leads_bind_ok hrest
      obtain ⟨_, E₃, E₄, rfl, h₃, h₄⟩ := leads_bind_ok hrest
      obtain ⟨hE₁, hF₁⟩ := probed_append hE
      obtain ⟨hE₂, hF₂⟩ := probed_append hF₁
      obtain ⟨hE₃, hE₄⟩ := probed_append hF₂
      obtain ⟨script, hnode, hscript⟩ := leads_node hE₂ h₂
      obtain ⟨dir, hnative, hdir⟩ := leads_nativeLibrary hE₄ h₄
      refine ⟨script, dir, ?_, fun hos _ => ⟨fun hneeds => (hscript hos hneeds).mono ?_, ?_⟩⟩
      · rw [Account.runnerCalls_append, Account.runnerCalls_append, Account.runnerCalls_append,
          makes_downloadUtility E₁ _ hE₁ h₁, hnode, makes_tooling E₃ _ hE₃ h₃, hnative]
        simp only [beq_self_eq_true, if_true, List.append_assoc]
      · intro x hx
        exact List.mem_append_right _ (List.mem_append_left _ hx)
      · exact List.mem_append_right _ (List.mem_append_right _
          (List.mem_append_right _ (hdir hos)))

/-- The calls of an installation that succeeds are those of the plan. -/
theorem leads_install {E : Account} (hE : E.Probed known)
    (h : (Sequence.install ctx).Leads E (.ok ())) :
    ∃ script dir, E.runnerCalls = Plan.calls ctx (Known known) script dir
      ∧ (ctx.target.os = .linux → ctx.config.environment = .developer →
          CreatedIn ctx (Known known) E script dir) := by
  have hfront : ((Sequence.opening ctx).bind fun _ => (Sequence.interpreter ctx).bind fun _ =>
      Sequence.prepare ctx).Makes known (Plan.interpreter ctx ++ Plan.packageIndex ctx) :=
    (makes_log _ _ _).bind fun _ => makes_interpreter.bind fun _ => makes_prepare
  have hback : ((Prerequisites.ensure ctx .javaCompiler).bind fun _ =>
      PythonPackages.install ctx ctx.config.accelerator ctx.config.requirementsPath
        ctx.config.nightly).Makes known
      (Plan.jdk ctx (Known known) ++ Plan.packages ctx (Known known)) :=
    makes_jdk.bind fun _ => makes_packages
  -- Only what lies between these two depends on what is created on the way.
  have hsplit : Sequence.install ctx
      = ((Sequence.opening ctx).bind fun _ => (Sequence.interpreter ctx).bind fun _ =>
          Sequence.prepare ctx).bind fun _ =>
        (when ctx.config.isDev (Sequence.developerTools ctx)).bind fun _ =>
          (Prerequisites.ensure ctx .javaCompiler).bind fun _ =>
            PythonPackages.install ctx ctx.config.accelerator ctx.config.requirementsPath
              ctx.config.nightly := by
    rw [Sequence.install_eq]
    simp only [bind_assoc]
    rfl
  rw [hsplit] at h
  obtain ⟨_, E₁, F₁, rfl, h₁, hrest⟩ := leads_bind_ok h
  obtain ⟨_, E₂, E₃, rfl, h₂, h₃⟩ := leads_bind_ok hrest
  obtain ⟨hE₁, hF₁⟩ := probed_append hE
  obtain ⟨hE₂, hE₃⟩ := probed_append hF₁
  obtain ⟨script, dir, hcalls, hcreated⟩ := leads_developerTools hE₂ h₂
  refine ⟨script, dir, ?_, fun hos henv => (hcreated hos henv).mono ?_⟩
  · rw [Account.runnerCalls_append, Account.runnerCalls_append, hfront E₁ _ hE₁ h₁, hcalls,
      hback E₃ _ hE₃ h₃]
    simp only [Plan.calls, List.append_assoc]
  · exact fun x hx => List.mem_append_right _ (List.mem_append_left _ hx)

/-- **A successful installation makes the planned calls**, whatever the runner
answers: the script that it runs holds what was downloaded, and the library is
built in the directory that was created for it. -/
theorem install_calls {σ : Type} (host : Host σ) (ctx : Context) (s : σ)
    (known : String → Option Path) (hknown : ∀ tool s, (host (.locate tool) s).1 = known tool)
    (hok : ((Sequence.install ctx).perform host s).1 = .ok ()) :
    ∃ script dir,
      ((Sequence.install ctx).account host s).runnerCalls
          = Plan.calls ctx (Known known) script dir
        ∧ (ctx.target.os = .linux → ctx.config.environment = .developer →
            CreatedIn ctx (Known known) ((Sequence.install ctx).account host s) script dir) := by
  have hprobed := probed_account hknown (Sequence.install ctx) s
  have h := leads_account host (Sequence.install ctx) s
  rw [hok] at h
  exact leads_install hprobed h

/-- A developer's context on Linux. -/
def developerContext : Context where
  target := ⟨.linux, some "sudo"⟩
  config := { projectRoot := ⟨"/srv/app"⟩, environment := .developer }
  settings := {}
  scratch := ⟨"/tmp/servedeps-x"⟩

/-- A recorder whose interpreter is recent enough. -/
def recentPython : Recorder := ({} : Recorder).withOutput "python3" "Python 3.11.4"

/-- A recorder has no tools and lets every command succeed: all of the plan is
called. -/
theorem install_calls_recorder :
    ∃ script dir,
      ((Sequence.install developerContext).account Recorder.host recentPython).runnerCalls
          = Plan.calls developerContext (fun _ => false) script dir
        ∧ CreatedIn developerContext (fun _ => false)
            ((Sequence.install developerContext).account Recorder.host recentPython)
            script dir := by
  have hok : ((Sequence.install developerContext).perform Recorder.host
      recentPython).1.isOk = true := by decide +kernel
  cases hresult : ((Sequence.install developerContext).perform Recorder.host recentPython).1 with
  | error e =>
      rw [hresult] at hok
      cases hok
  | ok u =>
      obtain ⟨script, dir, hcalls, hcreated⟩ := install_calls Recorder.host developerContext
        recentPython (fun _ => none) (fun _ _ => rfl) hresult
      exact ⟨script, dir, hcalls, hcreated rfl rfl⟩

end Steps

end Provision
