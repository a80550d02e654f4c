/-
  Provision.Proofs.AlikeSteps
  ───────────────────────────
  **THE STEPS OF TWO ALIKE RUNS.**

  Two contexts are alike when they agree on the system, the options and the
  settings, when their scratch directories are alike and when a command that
  is elevated in both of them is.  Every step is then alike in both contexts:
  a step looks at a scratch directory, or at what it has created there, only
  in order to put it into a command.

  Main results:

    `alike_steps`        the steps in alike contexts are alike
    `alike_install`      so is the whole installation
    `alike_load`         settings are loaded alike
    `alike_session`      a run is alike to itself, wherever its scratch directory is
-/
import Provision.Proofs.Likeness
import Provision.Run

namespace Provision

namespace Likeness

open Procedure

variable {L : Likeness}

/-! ## §1. Alike contexts. -/

/-- The directories of two commands: both have none, or alike ones. -/
abbrev Directories (L : Likeness) : Option Path → Option Path → Prop := Option.Rel L.path

/-- Contexts in which every step is alike. -/
structure Contexts (L : Likeness) (ctx ctx' : Context) : Prop where
  os : ctx'.target.os = ctx.target.os
  config : ctx'.config = ctx.config
  settings : ctx'.settings = ctx.settings
  scratch : L.path ctx.scratch ctx'.scratch
  elevated : ∀ (program : String) {xs ys : List String} {d e : Option Path},
    List.Forall₂ L.text xs ys → L.Directories d e →
    L.command (.elevated ctx.target.privilege program xs d)
      (.elevated ctx'.target.privilege program ys e)

/-- Every command is alike to itself. -/
theorem command_refl (c : Command) : L.command c c := by
  refine L.command_of c.program (texts_refl c.arguments) ?_
  cases c.directory with
  | none => exact .none
  | some p => exact .some (path_refl p)

/-- A privilege prefix makes no difference to likeness. -/
theorem elevated_of (privilege : Option String) (program : String) {xs ys : List String}
    {d e : Option Path} (hxs : List.Forall₂ L.text xs ys) (hd : L.Directories d e) :
    L.command (.elevated privilege program xs d) (.elevated privilege program ys e) := by
  cases privilege with
  | none => exact L.command_of program hxs hd
  | some p => exact L.command_of p (.cons (L.text_refl program) hxs) hd

/-- A context is alike in two alike scratch directories. -/
theorem contexts_scratch (ctx : Context) {scratch scratch' : Path}
    (h : L.path scratch scratch') :
    L.Contexts { ctx with scratch := scratch } { ctx with scratch := scratch' } where
  os := rfl
  config := rfl
  settings := rfl
  scratch := h
  elevated program _ _ _ _ hxs hd := elevated_of ctx.target.privilege program hxs hd

/-- Every context is alike to itself. -/
theorem contexts_refl (ctx : Context) : L.Contexts ctx ctx :=
  contexts_scratch ctx (path_refl ctx.scratch)

/-! ## §2. Tools. -/

variable {ctx ctx' : Context}

/-- A package of the system is installed by an elevated command without a path
in it. -/
theorem alike_aptInstall (h : L.Contexts ctx ctx') (package : String) :
    L.Procedures Eq (ctx.aptInstall package) (ctx'.aptInstall package) :=
  alike_run (h.elevated "apt-get" (texts_refl _) .none)

/-- Homebrew is never elevated, so the command is the same in both runs. -/
theorem alike_brewInstall (formula : String) :
    L.Procedures Eq (Context.brewInstall formula) (Context.brewInstall formula) :=
  alike_run (command_refl _)

/-- Whether a tool is needed depends on the search path and on force, in which
alike contexts agree. -/
theorem alike_needsInstall (h : L.Contexts ctx ctx') (kind : Prerequisite) :
    L.Procedures Eq (ctx.needsInstall kind) (ctx'.needsInstall kind) := by
  unfold Context.needsInstall
  rw [h.config]
  refine (alike_locate kind.binary).bind ?_
  rintro found _ rfl
  cases found with
  | none => exact alike_log.andThen (.done rfl)
  | some path =>
      show L.Procedures Eq (if ctx.config.force then _ else _ : Procedure _)
        (if ctx.config.force then _ else _)
      split
      · exact alike_log.andThen (.done rfl)
      · exact (alike_tell (L.notice_refl rfl)).andThen (.done rfl)

/-- A tool that is needed in one run is needed in the other, and alike
installers stay so. -/
theorem alike_whenNeeded (h : L.Contexts ctx ctx') (kind : Prerequisite)
    {p q : Procedure Unit} (hpq : L.Procedures Eq p q) :
    L.Procedures Eq (ctx.whenNeeded kind p) (ctx'.whenNeeded kind q) := by
  rw [Context.whenNeeded_eq, Context.whenNeeded_eq]
  refine (alike_needsInstall h kind).bind ?_
  rintro needed _ rfl
  exact hpq.when needed

/-- A version probe has no path in it, so both runs get the same answer. -/
theorem alike_ask (c : Command) (p : Pattern) :
    L.Procedures Eq (ToolVersion.ask c p) (ToolVersion.ask c p) := by
  refine (alike_capture c).bind ?_
  rintro answer _ rfl
  cases answer with
  | error e => exact .done rfl
  | ok r =>
      show L.Procedures Eq (if r.succeeded then _ else _ : Procedure _)
        (if r.succeeded then _ else _)
      split
      · exact .done rfl
      · exact alike_log.andThen (.done rfl)

theorem alike_homebrew : L.Procedures Eq ToolVersion.homebrew ToolVersion.homebrew := by
  refine (alike_ask _ _).bind ?_
  rintro version _ rfl
  exact .done rfl

/-! ## §3. Node.js. -/

/-- What is downloaded may differ in its bytes; nothing looks at them. -/
theorem alike_download (url : String) :
    L.Procedures (fun _ _ => True) (NodeJs.download url) (NodeJs.download url) := by
  refine (alike_tell (L.notice_refl rfl)).andThen ((alike_fetch url).bind ?_)
  intro x y hxy
  cases hxy with
  | ok _ => exact (alike_tell (L.notice_refl rfl)).andThen (.done trivial)
  | error h => exact (alike_tell (L.notice_refl rfl)).andThen (.fail h)

/-- **The setup script is put at alike paths**, and the shell is started on its
path. -/
theorem alike_installFromSource (h : L.Contexts ctx ctx') :
    L.Procedures Eq (NodeJs.installFromSource ctx) (NodeJs.installFromSource ctx') := by
  unfold NodeJs.installFromSource
  rw [h.settings]
  refine (alike_step _).andThen ((alike_download _).bind ?_)
  intro script script' _
  refine Procedures.withFile h.scratch ?_ _ _ _ _
  -- The path of the script is the only thing in which the two commands differ.
  intro path path' hpath
  exact (alike_run (h.elevated "bash" (.cons hpath .nil) .none)).andThen
    (alike_aptInstall h "nodejs")

/-- With Homebrew, Node.js takes no look at the scratch directory at all. -/
theorem alike_relinkFormula (h : L.Contexts ctx ctx') :
    L.Procedures Eq (NodeJs.relinkFormula ctx) (NodeJs.relinkFormula ctx') := by
  rw [NodeJs.relinkFormula_eq, NodeJs.relinkFormula_eq, h.settings]
  have hunlink : L.Procedures Eq NodeJs.unlinkPresent NodeJs.unlinkPresent := by
    refine (alike_locate "node").bind ?_
    rintro found _ rfl
    exact (alike_run (command_refl _)).when _
  exact (alike_step _).andThen (hunlink.andThen ((alike_brewInstall _).andThen
    (alike_run (command_refl _))))

/-- Node.js, by the way of each system. -/
theorem alike_installNode (h : L.Contexts ctx ctx') :
    L.Procedures Eq (NodeJs.install ctx) (NodeJs.install ctx') := by
  unfold NodeJs.install
  rw [h.os]
  cases ctx.target.os with
  | linux => exact alike_whenNeeded h _ (alike_installFromSource h)
  | macOS => exact alike_relinkFormula h
  | windows => exact alike_log

/-- The npm packages, whose command differs from system to system. -/
theorem alike_installTooling (h : L.Contexts ctx ctx') :
    L.Procedures Eq (NodeJs.installTooling ctx) (NodeJs.installTooling ctx') := by
  have hcommand : L.command (NodeJs.toolingCommand ctx) (NodeJs.toolingCommand ctx') := by
    unfold NodeJs.toolingCommand
    rw [h.os, h.config, h.settings]
    cases ctx.target.os with
    | linux => exact h.elevated "npm" (texts_refl _) .none
    | macOS => exact h.elevated _ .nil (.some (path_refl _))
    | windows => exact h.elevated "npm" (texts_refl _) .none
  exact (alike_step _).andThen (alike_run hcommand)

/-! ## §4. The JDK and the other tools. -/

theorem alike_brewJdk (h : L.Contexts ctx ctx') :
    L.Procedures Eq (Prerequisites.brewJdk ctx) (Prerequisites.brewJdk ctx') := by
  unfold Prerequisites.brewJdk
  rw [h.settings]
  refine alike_homebrew.bind ?_
  rintro version _ rfl
  split
  · exact alike_fail _
  · exact alike_log.andThen ((alike_step _).andThen (alike_brewInstall _))

theorem alike_installJdkFormula (h : L.Contexts ctx ctx') :
    L.Procedures Eq (Prerequisites.installJdkFormula ctx)
      (Prerequisites.installJdkFormula ctx') := alike_whenNeeded h _ (alike_brewJdk h)

/-- On Windows a missing JDK ends both runs with the same failure. -/
theorem alike_requireJdk (h : L.Contexts ctx ctx') :
    L.Procedures Eq (Prerequisites.requireJdk ctx) (Prerequisites.requireJdk ctx') := by
  unfold Prerequisites.requireJdk
  rw [h.config, h.settings]
  refine (alike_locate _).bind ?_
  rintro found _ rfl
  cases found with
  | none => exact alike_fail _
  | some path =>
      show L.Procedures Eq (if ctx.config.force then _ else _ : Procedure _)
        (if ctx.config.force then _ else _)
      split
      · exact alike_tell (L.notice_refl rfl)
      · exact .done rfl

/-- Every pair of a system and a tool, by the table of the installers. -/
theorem alike_ensure (h : L.Contexts ctx ctx') (kind : Prerequisite) :
    L.Procedures Eq (Prerequisites.ensure ctx kind) (Prerequisites.ensure ctx' kind) := by
  unfold Prerequisites.ensure
  rw [h.os]
  -- One case for each system and each tool, in the order of the table.
  cases ctx.target.os with
  | linux =>
      cases kind with
      | downloadUtility =>
          exact alike_whenNeeded h _ ((alike_step _).andThen (alike_aptInstall h _))
      | jsRuntime => exact alike_installNode h
      | javaCompiler =>
          show L.Procedures Eq (Prerequisites.installJdkPackage ctx)
            (Prerequisites.installJdkPackage ctx')
          unfold Prerequisites.installJdkPackage
          rw [h.settings]
          exact alike_whenNeeded h _ ((alike_step _).andThen (alike_aptInstall h _))
  | macOS =>
      cases kind with
      | downloadUtility =>
          exact alike_whenNeeded h _ ((alike_step _).andThen (alike_brewInstall _))
      | jsRuntime => exact alike_installNode h
      | javaCompiler => exact alike_installJdkFormula h
  | windows =>
      cases kind with
      | downloadUtility => exact alike_log
      | jsRuntime => exact alike_log
      | javaCompiler => exact alike_requireJdk h

/-! ## §5. The native library and the packages. -/

/-- The commands of a build are alike in alike directories. -/
theorem alike_buildCommands (h : L.Contexts ctx ctx') (l : NativeLibrary) {dir dir' : Path}
    (hdir : L.path dir dir') :
    List.Forall₂ L.command (NativeBuild.commands ctx.target.privilege l dir)
      (NativeBuild.commands ctx'.target.privilege l dir') := by
  have htarball : L.text (dir.join ⟨l.tarballName⟩).text (dir'.join ⟨l.tarballName⟩).text :=
    path_join hdir _
  have hsource : L.Directories (some (dir.join ⟨l.dirName⟩)) (some (dir'.join ⟨l.dirName⟩)) :=
    .some (path_join hdir _)
  -- The archive and the sources lie below the directory; the first two commands name
  -- them, the others stand in them.
  refine .cons ?wget (.cons ?tar (.cons ?cmake (.cons ?make (.cons ?install .nil))))
  case wget =>
    exact L.command_of "wget"
      (.cons (L.text_refl _) (.cons (L.text_refl _) (.cons htarball .nil))) .none
  case tar =>
    exact L.command_of "tar" (.cons (L.text_refl _) (.cons htarball
      (.cons (L.text_refl _) (.cons hdir .nil)))) .none
  case cmake => exact L.command_of "cmake" (texts_refl _) hsource
  case make => exact L.command_of "make" (texts_refl _) hsource
  case install => exact h.elevated "make" (texts_refl _) hsource

/-- The build, which is the one step that makes a directory of its own below the
scratch directory. -/
theorem alike_nativeBuild (h : L.Contexts ctx ctx') (l : NativeLibrary) :
    L.Procedures Eq (NativeBuild.install ctx l) (NativeBuild.install ctx' l) := by
  unfold NativeBuild.install
  rw [h.os]
  cases ctx.target.os with
  | linux =>
      refine Procedures.withDirectory h.scratch ?_ _
      intro dir dir' hdir
      exact (alike_step _).andThen ((alike_forM_run (alike_buildCommands h l hdir)).andThen
        (alike_tell (L.notice_refl rfl)))
  | macOS => exact alike_log
  | windows => exact alike_log

/-- Packages are installed by the interpreter, which both contexts name alike. -/
theorem alike_pip (h : L.Contexts ctx ctx') (arguments : List String) :
    L.Procedures Eq (run (PythonPackages.pip ctx arguments))
      (run (PythonPackages.pip ctx' arguments)) := by
  unfold PythonPackages.pip
  rw [h.settings]
  exact alike_run (command_refl _)

theorem alike_pipSteps (h : L.Contexts ctx ctx') (os : Os) (a : Option Accelerator)
    (requirements : Path) (nightly : Bool) :
    L.Procedures Eq (PythonPackages.pipSteps ctx os a requirements nightly)
      (PythonPackages.pipSteps ctx' os a requirements nightly) := by
  -- No package step looks at the scratch directory.
  have htorch : L.Procedures Eq (PythonPackages.torch ctx os a)
      (PythonPackages.torch ctx' os a) := by
    unfold PythonPackages.torch PythonPackages.torchCommand
    rw [h.config]
    exact (alike_step _).andThen (alike_pip h _)
  have hupgrade : L.Procedures Eq (PythonPackages.upgrade ctx)
      (PythonPackages.upgrade ctx') := by
    unfold PythonPackages.upgrade
    rw [h.settings]
    exact (alike_pip h _).when _
  have hnightly : L.Procedures Eq (PythonPackages.nightlyTorch ctx a nightly)
      (PythonPackages.nightlyTorch ctx' a nightly) := by
    unfold PythonPackages.nightlyTorch PythonPackages.nightlyCommand
    rw [h.settings]
    exact ((alike_step _).andThen (alike_pip h _)).when _
  exact htorch.andThen (hupgrade.andThen
    (((alike_step _).andThen (alike_pip h _)).andThen hnightly))

/-- The package step: the pair of a system and an accelerator decides in both
runs alike whether it begins. -/
theorem alike_packages (h : L.Contexts ctx ctx') (a : Option Accelerator)
    (requirements : Path) (nightly : Bool) :
    L.Procedures Eq (PythonPackages.install ctx a requirements nightly)
      (PythonPackages.install ctx' a requirements nightly) := by
  unfold PythonPackages.install
  rw [h.os]
  cases hu : PythonPackages.unsupported? ctx.target.os a with
  | some e =>
      rw [PythonPackages.installFor_unsupported hu, PythonPackages.installFor_unsupported hu]
      exact alike_fail e
  | none =>
      rw [PythonPackages.installFor_pipSteps hu, PythonPackages.installFor_pipSteps hu]
      have hconda : L.Procedures Eq PythonPackages.condaBuild PythonPackages.condaBuild := by
        refine (alike_locate "conda").bind ?_
        rintro found _ rfl
        exact ((alike_step _).andThen (alike_run (command_refl _))).when _
      exact hconda.andThen (alike_pipSteps h _ _ _ _)

/-! ## §6. The installation. -/

/-- The package lists are brought up to date in both runs or in neither. -/
theorem alike_prepare (h : L.Contexts ctx ctx') :
    L.Procedures Eq (Sequence.prepare ctx) (Sequence.prepare ctx') := by
  rw [Sequence.prepare_eq, Sequence.prepare_eq, h.os, h.config]
  exact ((alike_step _).andThen
    (alike_run (h.elevated "apt-get" (texts_refl _) .none))).when _

/-- The four developer steps, one after another. -/
theorem alike_developerTools (h : L.Contexts ctx ctx') :
    L.Procedures Eq (Sequence.developerTools ctx) (Sequence.developerTools ctx') := by
  rw [Sequence.developerTools_eq, Sequence.developerTools_eq, h.os, h.settings]
  exact (alike_ensure h _).andThen ((alike_installNode h).andThen
    ((alike_installTooling h).andThen ((alike_nativeBuild h _).when _)))

/-- **The steps in alike contexts are alike.** -/
theorem alike_steps (h : L.Contexts ctx ctx') :
    L.Procedures Eq (Sequence.steps ctx) (Sequence.steps ctx') := by
  unfold Sequence.steps
  rw [h.config]
  exact (alike_prepare h).andThen (((alike_developerTools h).when _).andThen
    ((alike_ensure h _).andThen (alike_packages h _ _ _)))

/-- The interpreter answers both runs alike, so both go on or both fail. -/
theorem alike_checkPython (h : L.Contexts ctx ctx') :
    L.Procedures Eq (Sequence.checkPython ctx) (Sequence.checkPython ctx') := by
  unfold Sequence.checkPython
  rw [h.settings]
  refine ((alike_ask _ _).bind (S := Eq) ?_).bind ?_
  · rintro version _ rfl
    exact .done rfl
  · rintro found _ rfl
    cases found with
    | none => exact alike_fail _
    | some release =>
        show L.Procedures Eq
          (if release.atLeast Sequence.oldestPython then _ else _ : Procedure _)
          (if release.atLeast Sequence.oldestPython then _ else _)
        split
        · exact alike_log
        · exact alike_fail _

theorem alike_interpreter (h : L.Contexts ctx ctx') :
    L.Procedures Eq (Sequence.interpreter ctx) (Sequence.interpreter ctx') := by
  unfold Sequence.interpreter
  rw [h.config]
  split
  · exact alike_log
  · exact alike_checkPython h

/-- **The whole installation in alike contexts is alike.** -/
theorem alike_install (h : L.Contexts ctx ctx') :
    L.Procedures Eq (Sequence.install ctx) (Sequence.install ctx') := by
  rw [Sequence.install_eq, Sequence.install_eq]
  exact alike_log.andThen ((alike_interpreter h).andThen (alike_steps h))

/-! ## §7. Settings. -/

/-- A settings file is read at a path that has nothing to do with the scratch
directory. -/
theorem alike_loadFile (path : Path) :
    L.Procedures Eq (Settings.loadFile path) (Settings.loadFile path) := by
  refine alike_log.andThen ((alike_read path).bind ?_)
  rintro bytes _ rfl
  cases Settings.ofBytes path bytes with
  | ok s => exact .done rfl
  | error e => exact alike_fail e

/-- **Settings are loaded alike.** -/
theorem alike_load (root : Path) (named : Option Path) :
    L.Procedures Eq (Settings.load root named) (Settings.load root named) := by
  cases named with
  | some path =>
      refine (alike_doesExist path).bind ?_
      rintro found _ rfl
      cases found with
      | true => exact alike_loadFile path
      | false => exact alike_fail _
  | none =>
      -- Without a name the file of the project is looked for, and may be missing.
      have hfind : L.Procedures Eq (Settings.findProjectFile root)
          (Settings.findProjectFile root) := by
        refine (alike_doesExist _).bind ?_
        rintro found _ rfl
        cases found <;> exact .done rfl
      refine hfind.bind ?_
      rintro found _ rfl
      cases found with
      | some path => exact alike_loadFile path
      | none => exact alike_log.andThen (.done rfl)

/-! ## §8. A run. -/

/-- The notices at the beginning and at the end belong to the run as well. -/
theorem alike_installIn (target : Target) (config : InstallConfig) (settings : Settings)
    {scratch scratch' : Path} (h : L.path scratch scratch') :
    L.Procedures Eq (Run.installIn target config settings scratch)
      (Run.installIn target config settings scratch') := by
  have hinstall := alike_install (contexts_scratch ⟨target, config, settings, scratch⟩ h)
  exact (alike_tell (L.notice_refl rfl)).andThen (hinstall.andThen
    (alike_tell (L.notice_refl rfl)))

/-- **A run is alike to itself**, wherever its scratch directory is. -/
theorem alike_session (w : Surroundings) (a : CommandLine.Arguments) :
    L.Procedures Eq (Run.install w a) (Run.install w a) := by
  -- The root and the settings are found before a scratch directory exists; from there
  -- on the two runs may name different ones.
  refine (alike_ofExcept (outcomes_refl (fun _ => rfl) _)).bind ?_
  rintro root _ rfl
  refine (alike_load root a.config).bind ?_
  rintro settings _ rfl
  refine alike_log.andThen (Procedures.withDirectory (path_refl _) ?_ _)
  intro scratch scratch' h
  exact alike_installIn _ _ _ h

end Likeness

end Provision
