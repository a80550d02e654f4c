/-
  Provision.Proofs.ProjectRoot
  ────────────────────────────
  **THE PROJECT ROOT.**

  A root that is named is resolved before anything else is done, and it is in
  normal form from then on: to resolve it again changes nothing, wherever the
  process may be by then.  Whatever an installation takes from the project lies
  in the root: the requirements of torch, those of the environment, and on macOS
  the script that installs the npm tools, which runs in the root itself.

  Main results:

    `asks_fromProject`     what a run takes from the project lies in the root
    `visits_tooling`       a successful run on macOS runs the script in the root
    `projectRoot_normal`   a named root is resolved once and for all
-/
import Provision.Run
import Provision.Proofs.Asked
import Provision.Proofs.NormalPaths

namespace Provision

open Procedure

/-! ## §1. What a run takes from the project. -/

namespace Command

variable (privilege : Option String) (program : String) (arguments : List String)
  (directory : Option Path)

/-- A prefix leaves the directory of a command alone. -/
theorem elevated_directory :
    (elevated privilege program arguments directory).directory = directory := by
  cases privilege <;> rfl

/-- A prefix adds one argument at most. -/
theorem length_elevated :
    (elevated privilege program arguments directory).arguments.length ≤ arguments.length + 1 := by
  cases privilege with
  | none => exact Nat.le_succ _
  | some p => exact Nat.le_refl _

end Command

namespace Context

/-- The script of the project that installs the npm tools on macOS. -/
def toolingScript (ctx : Context) : Path :=
  ctx.config.projectRoot.join ⟨ctx.settings.macNpmScript⟩

/-- The requirements file of torch. -/
def torchRequirements (ctx : Context) : Path :=
  ctx.config.projectRoot.join
    ⟨PythonPackages.torchRequirementsFile ctx.target.os ctx.config.accelerator⟩

/-- What a request takes from the project it takes from the root: pip installs
only from requirements files that lie in it, and on macOS the one command with a
directory is the script, which runs in the root. -/
def FromProject (ctx : Context) : Request → Prop
  | .run c =>
      (∀ file, c.arguments = ["-m", "pip", "install", "-U", "-r", file] →
          (⟨file⟩ : Path).LiesIn ctx.config.projectRoot)
        ∧ (ctx.target.os = .macOS → ∀ d, c.directory = some d → d = ctx.config.projectRoot
          ∧ c = .elevated ctx.target.privilege ctx.toolingScript.text [] (some d))
  | _ => True

end Context

section Steps

variable {ctx : Context}

/-- Nothing but commands takes anything from the project. -/
theorem lenient_fromProject : Lenient ctx.FromProject := by
  intro r hr _
  cases r with
  | run c => cases hr
  | _ => exact trivial

/-- A command of another program takes nothing from the project, if it runs
where the process is. -/
theorem fromProject_plain {c : Command}
    (harguments : ∀ file, c.arguments ≠ ["-m", "pip", "install", "-U", "-r", file])
    (hdirectory : c.directory = none) : ctx.FromProject (.run c) := by
  refine ⟨fun file h => absurd h (harguments file), fun _ d hd => ?_⟩
  rw [hdirectory] at hd
  cases hd

/-- A command with fewer arguments is none of pip with a requirements file. -/
theorem ne_requirements {file : String} {c : Command} (h : c.arguments.length < 6) :
    c.arguments ≠ ["-m", "pip", "install", "-U", "-r", file] := by
  intro heq
  rw [heq] at h
  exact Nat.lt_irrefl 6 h

/-- With a prefix the first argument is the program. -/
theorem fromProject_elevated {program : String} {arguments : List String}
    (hprogram : program ≠ "-m")
    (harguments : ∀ file, arguments ≠ ["-m", "pip", "install", "-U", "-r", file]) :
    ctx.FromProject (.run (ctx.elevated program arguments)) := by
  unfold Context.elevated
  cases ctx.target.privilege with
  | none => exact fromProject_plain harguments rfl
  | some p => exact fromProject_plain (fun _ h => hprogram (List.cons.inj h).1) rfl

/-- Homebrew takes nothing from the project. -/
theorem fromProject_brew {verb : String} {arguments : List String} (h : verb ≠ "-m") :
    ctx.FromProject (.run ⟨"brew", verb :: arguments, none⟩) :=
  fromProject_plain (fun _ heq => h (List.cons.inj heq).1) rfl

/-- A command of pip that is given something else than a requirements file. -/
theorem fromProject_pip {arguments : List String}
    (h : ∀ file, arguments ≠ ["-U", "-r", file]) :
    ctx.FromProject (.run (PythonPackages.pip ctx arguments)) := by
  refine fromProject_plain (fun file heq => h file ?_) rfl
  change "-m" :: "pip" :: "install" :: arguments = _ at heq
  simpa only [List.cons.injEq, true_and] using heq

/-- A command of pip that is given a requirements file of the project. -/
theorem fromProject_requirements {file : Path} (h : file.LiesIn ctx.config.projectRoot) :
    ctx.FromProject (.run (PythonPackages.pip ctx ["-U", "-r", file.text])) := by
  constructor
  · intro other harguments
    cases harguments
    exact h
  · intro _ d hd
    cases hd

/-! ## §2. Every step takes it from the root. -/

theorem asks_fromApt (package : String) : (ctx.aptInstall package).Asks ctx.FromProject :=
  asks_run (fromProject_elevated (by decide) fun _ => by simp)

theorem asks_fromBrew (formula : String) :
    (Context.brewInstall formula).Asks ctx.FromProject :=
  asks_run (fromProject_brew (by decide))

/-- Node.js takes nothing from the project, on any system. -/
theorem fromProject_installNode : (NodeJs.install ctx).Asks ctx.FromProject := by
  unfold NodeJs.install
  -- The script of the package source with apt, the formula with its three verbs, a message.
  split
  · refine asks_whenNeeded lenient_fromProject trivial
      (asks_installFromSource lenient_fromProject trivial (fun script => ?_) ?_)
    · exact fromProject_elevated (by decide) fun _ => by simp
    · exact fromProject_elevated (by decide) fun _ => by simp
  · refine asks_relinkFormula lenient_fromProject trivial fun verb hverb _ =>
      fromProject_brew ?_
    rintro rfl
    exact absurd hverb (by decide)
  · exact asks_log lenient_fromProject _ _ _

/-- The npm tools: on macOS this is the script in the root. -/
theorem fromProject_installTooling : (NodeJs.installTooling ctx).Asks ctx.FromProject := by
  refine asks_installTooling lenient_fromProject ?_
  unfold NodeJs.toolingCommand
  cases hos : ctx.target.os with
  | macOS =>
      -- The script has no arguments, so that even with a prefix there is at most one.
      have hshort : (Command.elevated ctx.target.privilege ctx.toolingScript.text []
          (some ctx.config.projectRoot)).arguments.length < 6 :=
        Nat.lt_of_le_of_lt (Command.length_elevated ..) (by decide)
      refine ⟨fun file h => absurd h (ne_requirements hshort), fun _ d hd => ?_⟩
      obtain rfl : ctx.config.projectRoot = d :=
        Option.some.inj ((Command.elevated_directory ..).symm.trans hd)
      exact ⟨rfl, rfl⟩
  | _ => exact fromProject_elevated (by decide) fun _ => by simp

/-- No tool that is installed takes anything from the project. -/
theorem fromProject_ensure (kind : Prerequisite) :
    (Prerequisites.ensure ctx kind).Asks ctx.FromProject := by
  unfold Prerequisites.ensure
  split
  · exact asks_requireJdk lenient_fromProject trivial
  · exact asks_log lenient_fromProject _ _ _
  · exact fromProject_installNode
  · exact asks_whenNeeded lenient_fromProject trivial
      ((asks_step lenient_fromProject _).bind fun _ => asks_fromApt _)
  · exact asks_whenNeeded lenient_fromProject trivial
      ((asks_step lenient_fromProject _).bind fun _ => asks_fromApt _)
  · exact asks_whenNeeded lenient_fromProject trivial
      ((asks_step lenient_fromProject _).bind fun _ => asks_fromBrew _)
  · exact asks_installJdkFormula lenient_fromProject trivial trivial
      (fromProject_brew (by decide))

/-- The build takes its sources from elsewhere. -/
theorem fromProject_nativeBuild (l : NativeLibrary) :
    (NativeBuild.install ctx l).Asks ctx.FromProject := by
  cases hos : ctx.target.os with
  | linux =>
      -- The build runs in its own directory, but not on macOS.
      refine asks_nativeBuild lenient_fromProject fun dir c hc => ⟨fun file => ?_, fun hmac => ?_⟩
      · have hshort : ∀ c ∈ NativeBuild.commands ctx.target.privilege l dir,
            c.arguments.length < 6 := by
          unfold NativeBuild.commands
          simp only [List.forall_mem_cons]
          exact ⟨by simp, by simp, by simp, by simp,
            Nat.lt_of_le_of_lt (Command.length_elevated ..) (by decide), fun _ h => by cases h⟩
        exact fun h => absurd h (ne_requirements (hshort c hc))
      · rw [hos] at hmac
        cases hmac
  | _ =>
      unfold NativeBuild.install
      rw [hos]
      exact asks_log lenient_fromProject _ _ _

/-! ## §3. The files. -/

/-- The requirements files are named from the root. -/
theorem relative_torch (os : Os) (a : Option Accelerator) :
    (⟨PythonPackages.torchRequirementsFile os a⟩ : Path).isAbsolute = false := by
  unfold PythonPackages.torchRequirementsFile
  cases a <;> simp only [String.append_assoc] <;> exact Path.isAbsolute_append (by decide) _

theorem relative_requirements (e : Environment) :
    (⟨e.requirementsFile⟩ : Path).isAbsolute = false := by
  cases e <;> decide

variable (hroot : ctx.config.projectRoot.isAbsolute = true)
include hroot

theorem liesIn_torch : ctx.torchRequirements.LiesIn ctx.config.projectRoot :=
  Path.liesIn_join hroot (relative_torch _ _)

theorem liesIn_requirements : ctx.config.requirementsPath.LiesIn ctx.config.projectRoot :=
  Path.liesIn_join hroot (relative_requirements _)

/-- **The packages are the ones that the files in the root require.** -/
theorem fromProject_packages :
    (PythonPackages.install ctx ctx.config.accelerator ctx.config.requirementsPath
      ctx.config.nightly).Asks ctx.FromProject := by
  unfold PythonPackages.install
  cases hu : PythonPackages.unsupported? ctx.target.os ctx.config.accelerator with
  | some e =>
      rw [PythonPackages.installFor_unsupported hu]
      exact asks_fail e
  | none =>
      rw [PythonPackages.installFor_eq hu]
      have hconda : PythonPackages.condaBuild.Asks ctx.FromProject :=
        asks_condaBuild lenient_fromProject trivial (fromProject_plain (fun _ => by simp) rfl)
      have htorch : (PythonPackages.torch ctx ctx.target.os ctx.config.accelerator).Asks
          ctx.FromProject :=
        (asks_step lenient_fromProject _).bind fun _ =>
          asks_run (fromProject_requirements (liesIn_torch hroot))
      have hupgrade : (PythonPackages.upgrade ctx).Asks ctx.FromProject :=
        (asks_run (fromProject_pip fun _ => by simp)).when _
      have hrequirements : (PythonPackages.requirementsOf ctx ctx.config.requirementsPath).Asks
          ctx.FromProject :=
        (asks_step lenient_fromProject _).bind fun _ =>
          asks_run (fromProject_requirements (liesIn_requirements hroot))
      have hnightly : (PythonPackages.nightlyTorch ctx ctx.config.accelerator
          ctx.config.nightly).Asks ctx.FromProject :=
        ((asks_step lenient_fromProject _).bind fun _ =>
          asks_run (fromProject_pip fun _ => by simp)).when _
      exact hconda.bind fun _ => htorch.bind fun _ => hupgrade.bind fun _ =>
        hrequirements.bind fun _ => hnightly

/-- **What a run takes from the project lies in the root.** -/
theorem asks_fromProject : (Sequence.install ctx).Asks ctx.FromProject := by
  have hprepare : (Sequence.prepare ctx).Asks ctx.FromProject := by
    rw [Sequence.prepare_eq]
    exact ((asks_step lenient_fromProject _).bind fun _ =>
      asks_run (fromProject_elevated (by decide) fun _ => by simp)).when _
  have hdeveloper : (Sequence.developerTools ctx).Asks ctx.FromProject := by
    rw [Sequence.developerTools_eq]
    exact (fromProject_ensure _).bind fun _ => fromProject_installNode.bind fun _ =>
      fromProject_installTooling.bind fun _ => (fromProject_nativeBuild _).when _
  rw [Sequence.install_eq]
  exact (asks_log lenient_fromProject _ _ _).bind fun _ =>
    (asks_interpreter lenient_fromProject trivial).bind fun _ => hprepare.bind fun _ =>
      (hdeveloper.when _).bind fun _ => (fromProject_ensure _).bind fun _ =>
        fromProject_packages hroot

omit hroot

/-- A successful run on macOS runs the script in the root, on a developer's host. -/
theorem visits_tooling (hos : ctx.target.os = .macOS)
    (hdev : ctx.config.environment = .developer) :
    (Sequence.install ctx).Visits (.run (.elevated ctx.target.privilege ctx.toolingScript.text []
      (some ctx.config.projectRoot))) := by
  have htooling : (NodeJs.installTooling ctx).Visits (.run (.elevated ctx.target.privilege
      ctx.toolingScript.text [] (some ctx.config.projectRoot))) := by
    unfold NodeJs.installTooling NodeJs.toolingCommand
    rw [hos]
    exact .after (fun _ => visits_run _) _
  have hdeveloper : (when ctx.config.isDev (Sequence.developerTools ctx)).Visits
      (.run (.elevated ctx.target.privilege ctx.toolingScript.text []
        (some ctx.config.projectRoot))) := by
    rw [InstallConfig.isDev_eq hdev, Sequence.developerTools_eq]
    exact .after (fun _ => .after (fun _ => htooling.before _) _) _
  rw [Sequence.install_eq]
  exact .after (fun _ => .after (fun _ => .after (fun _ => hdeveloper.before _) _) _) _

end Steps

/-! ## §4. The root of a run. -/

/-- What belongs to the project lies in its root: the requirements files, and on
macOS the directory that the script runs in and the script itself, unless its
name begins at the root of the file system.  A run takes what it takes from the
project from there, and no run succeeds without it. -/
structure Context.Rooted (ctx : Context) : Prop where
  torch : ctx.torchRequirements.LiesIn ctx.config.projectRoot
  requirements : ctx.config.requirementsPath.LiesIn ctx.config.projectRoot
  directory : ctx.config.projectRoot.LiesIn ctx.config.projectRoot
  script : (⟨ctx.settings.macNpmScript⟩ : Path).isAbsolute = false →
    ctx.toolingScript.LiesIn ctx.config.projectRoot
  asks : (Sequence.install ctx).Asks ctx.FromProject
  visitsTorch : (Sequence.install ctx).Visits
    (.run (PythonPackages.pip ctx ["-U", "-r", ctx.torchRequirements.text]))
  visitsRequirements : (Sequence.install ctx).Visits
    (.run (PythonPackages.pip ctx ["-U", "-r", ctx.config.requirementsPath.text]))
  visitsScript : ctx.target.os = .macOS → ctx.config.environment = .developer →
    (Sequence.install ctx).Visits (.run (.elevated ctx.target.privilege ctx.toolingScript.text []
      (some ctx.config.projectRoot)))

/-- All this holds for every root that is absolute. -/
theorem rooted_of_absolute {ctx : Context} (h : ctx.config.projectRoot.isAbsolute = true) :
    ctx.Rooted where
  torch := liesIn_torch h
  requirements := liesIn_requirements h
  directory := Path.liesIn_self h
  script hscript := Path.liesIn_join h hscript
  asks := asks_fromProject h
  visitsTorch := visits_torch
  visitsRequirements := visits_requirements
  visitsScript := visits_tooling

/-- A named root is resolved against the working directory. -/
theorem projectRoot_named {directory named root : Path}
    (h : Path.absolute? directory named = some root) :
    Run.projectRoot directory (some named) = .ok root := by
  simp only [Run.projectRoot, h]

/-- **A named root is resolved once and for all**: in a normal working directory
every text but the empty one names a root in normal form.  It is the path of the
text, from the working directory on if the text does not begin at the root; it
names itself from then on, and what belongs to the project lies in it. -/
theorem projectRoot_normal (directory : Path) (hdirectory : directory.Normal) :
    Run.projectRoot directory (some ⟨""⟩) = .error (.io .emptyPath)
      ∧ ∀ named : Path, named.text ≠ "" →
        ∃ root, Run.projectRoot directory (some named) = .ok root ∧ root.Normal
          ∧ Path.absolute? directory named = some root
          ∧ root.parts = (if named.isAbsolute then [] else directory.parts) ++ named.parts
          ∧ (∀ later, Run.projectRoot later (some root) = .ok root)
          ∧ ∀ ctx : Context, ctx.config.projectRoot = root → ctx.Rooted := by
  constructor
  · rfl
  · intro named hnamed
    obtain ⟨root, hroot, hnormal⟩ := Path.normal_absolute? hdirectory hnamed
    refine ⟨root, projectRoot_named hroot, hnormal, hroot,
      Path.parts_absolute? (Path.text_ne_empty hdirectory.absolute) hroot, fun later => ?_,
      fun ctx hctx => ?_⟩
    · exact projectRoot_named (Path.absolute?_of_normal hnormal later)
    · exact rooted_of_absolute (hctx ▸ hnormal.absolute)

/-- Steps upwards and the slash at the end stay, dots and repeated slashes go. -/
theorem projectRoot_normal_upwards :
    Path.Normal ⟨"/srv/work"⟩
      ∧ Run.projectRoot ⟨"/srv/work"⟩ (some ⟨".//../app/./"⟩) = .ok ⟨"/srv/work/../app/"⟩
      ∧ (∀ later, Run.projectRoot later (some ⟨"/srv/work/../app/"⟩) = .ok ⟨"/srv/work/../app/"⟩)
      ∧ ∀ ctx : Context, ctx.config.projectRoot = ⟨"/srv/work/../app/"⟩ → ctx.Rooted := by
  have hdirectory : Path.Normal ⟨"/srv/work"⟩ := ⟨by decide, by decide, by decide⟩
  have hnamed : Run.projectRoot ⟨"/srv/work"⟩ (some ⟨".//../app/./"⟩)
      = .ok ⟨"/srv/work/../app/"⟩ := by decide
  obtain ⟨root, hroot, -, -, -, hlater, hctx⟩ :=
    (projectRoot_normal ⟨"/srv/work"⟩ hdirectory).2 ⟨".//../app/./"⟩ (by decide)
  cases hnamed.symm.trans hroot
  exact ⟨hdirectory, hnamed, hlater, hctx⟩

end Provision
