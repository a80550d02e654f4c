/-
  Provision.Proofs.Elevation
  ──────────────────────────
  **THE RIGHTS OF THE ADMINISTRATOR.**

  A privilege prefix is put in front of the commands that need the rights of
  the administrator, and nowhere else.  So the steps with a prefix are the
  steps without one in which exactly these commands are replaced, and two runs
  on hosts to which the prefix makes no difference go the same way.

  Main results:

    `UserCommand.not_needsAdministrator`   no command of a user needs the rights
    `install_elevating`   a prefix replaces the administrator's commands
    `install_elevation`   two runs, with a prefix and without one
-/
import Provision.Proofs.OtherCommands
import Provision.Proofs.Plan
import Provision.Proofs.Replay

namespace Provision

open Procedure

/-! ## §1. The administrator's commands and the user's. -/

/-- The command behind a prefix. -/
def Command.behind (p : String) (c : Command) : Command :=
  ⟨p, c.program :: c.arguments, c.directory⟩

/-- The line of a command behind a prefix is the prefix, a blank and its own
line. -/
theorem line_behind (p : String) (c : Command) : (c.behind p).line = p ++ " " ++ c.line :=
  String.intercalate_cons_cons ..

/-- Does the command change a Linux system?  These are the commands of apt, the
set-up script of the package source, the npm tools and the installation of the
native library. -/
def Command.changesLinux (c : Command) : Bool :=
  match c.program, c.arguments with
  | "apt-get", ["update"] => true
  | "apt-get", ["install", "-y", _] => true
  | "bash", [_] => true
  | "npm", "install" :: "-g" :: _ => true
  | "make", ["install"] => true
  | _, _ => false

namespace Context

/-- The context with a privilege prefix, or without one. -/
def elevating (ctx : Context) (elevation : Option String) : Context :=
  { ctx with target := { ctx.target with elevation := elevation } }

/-- Does the command need the rights of the administrator?  On macOS only the
script of the project does. -/
def needsAdministrator (ctx : Context) (c : Command) : Bool :=
  match ctx.target.os with
  | .linux => c.changesLinux
  | .macOS =>
      let root := ctx.config.projectRoot
      c == ⟨(root.join ⟨ctx.settings.macNpmScript⟩).text, [], some root⟩
  | .windows => false

/-- The command with the prefix, if it needs one. -/
def raised (ctx : Context) (p : String) (c : Command) : Command :=
  if ctx.needsAdministrator c then c.behind p else c

/-- The commands that a user runs: pip, conda and brew, the download of the
sources, and the build up to its installation. -/
inductive UserCommand (ctx : Context) : Command → Prop
  | pip (arguments : List String) : UserCommand ctx (PythonPackages.pip ctx arguments)
  | conda (arguments : List String) : UserCommand ctx ⟨"conda", arguments, none⟩
  | brew (arguments : List String) : UserCommand ctx ⟨"brew", arguments, none⟩
  | wget (arguments : List String) : UserCommand ctx ⟨"wget", arguments, none⟩
  | tar (arguments : List String) : UserCommand ctx ⟨"tar", arguments, none⟩
  | cmake (h : ctx.target.os = .linux) (arguments : List String) (source : Path) :
      UserCommand ctx ⟨"cmake", arguments, some source⟩
  | compile (h : ctx.target.os = .linux) (source : Path) :
      UserCommand ctx ⟨"make", [], some source⟩
  | npm (h : ctx.target.os = .windows) (arguments : List String) :
      UserCommand ctx ⟨"npm", arguments, none⟩

variable {ctx : Context} {c : Command}

theorem elevating_os (e : Option String) : (ctx.elevating e).target.os = ctx.target.os := rfl

theorem needsAdministrator_linux (hos : ctx.target.os = .linux) (c : Command) :
    ctx.needsAdministrator c = c.changesLinux := by
  unfold needsAdministrator
  rw [hos]

/-- **No command of a user needs the rights of the administrator.** -/
theorem UserCommand.not_needsAdministrator (h : ctx.UserCommand c) :
    ctx.needsAdministrator c = false := by
  unfold needsAdministrator
  cases h with
  | pip arguments =>
      cases ctx.target.os with
      | linux =>
          -- The second word of a pip command is none of the administrator's.
          unfold PythonPackages.pip Command.changesLinux
          dsimp only
          split <;> simp_all
      | windows => rfl
      | macOS => simp [PythonPackages.pip]
  | cmake h arguments source => rw [h]; rfl
  | compile h source => rw [h]; rfl
  | npm h arguments => rw [h]
  | _ => cases ctx.target.os <;> simp [Command.changesLinux]

/-- A command of a user stays as it is, whatever the prefix. -/
theorem UserCommand.raised_eq (h : ctx.UserCommand c) (p : String) : ctx.raised p c = c := by
  unfold raised
  rw [h.not_needsAdministrator]
  rfl

end Context

/-! ## §2. The steps with a prefix and without one. -/

section Steps

open Context (elevating_os)

variable {ctx : Context} {p : String}

/-- A command that needs the rights is put behind the prefix. -/
theorem raised_elevated (hos : ctx.target.os ≠ .windows) {program : String}
    {arguments : List String} {directory : Option Path}
    (h : ctx.needsAdministrator ⟨program, arguments, directory⟩ = true) :
    ctx.raised p (.elevated (ctx.elevating none).target.privilege program arguments directory)
      = .elevated (ctx.elevating (some p)).target.privilege program arguments directory := by
  have hprivilege : ∀ e, (ctx.elevating e).target.privilege = e := by
    intro e
    unfold Context.elevating Target.privilege
    cases hos' : ctx.target.os with
    | windows => exact absurd hos' hos
    | _ => rfl
  rw [hprivilege, hprivilege, Command.elevated_none, Command.elevated_some]
  unfold Context.raised
  rw [h]
  rfl

/-- Running such a command, on Linux. -/
theorem becomes_elevated (hos : ctx.target.os = .linux) {program : String}
    {arguments : List String} {directory : Option Path}
    (h : Command.changesLinux ⟨program, arguments, directory⟩ = true) :
    (run (.elevated (ctx.elevating none).target.privilege program arguments directory)).Becomes
      (ctx.raised p)
      (run (.elevated (ctx.elevating (some p)).target.privilege program arguments directory)) := by
  have hraised := raised_elevated (p := p) (by rw [hos]; decide)
    ((Context.needsAdministrator_linux hos _).trans h)
  rw [← hraised]
  exact becomes_run _

/-- Nothing but the commands that are run is restricted to those of a user. -/
theorem lenient_user : Lenient fun r => ∀ c, r = .run c → ctx.UserCommand c := by
  intro r hr _ c hc
  rw [hc] at hr
  cases hr

/-- What only runs commands of a user is the same with a prefix. -/
theorem becomes_user {α : Type} {q : Procedure α}
    (h : q.Asks fun r => ∀ c, r = .run c → ctx.UserCommand c) : q.Becomes (ctx.raised p) q := by
  refine becomes_self fun E r hleads e he c hc => ?_
  exact (h E r hleads e he c hc).raised_eq p

/-- A single command of a user, as a request. -/
theorem asks_user {c : Command} (h : ctx.UserCommand c) :
    ∀ d, Request.run c = .run d → ctx.UserCommand d := by
  intro d hd
  cases hd
  exact h

/-- Whether a tool is needed has nothing to do with the prefix. -/
theorem becomes_whenNeeded (kind : Prerequisite) {q q' : Procedure Unit}
    (h : q.Becomes (ctx.raised p) q') :
    ((ctx.elevating none).whenNeeded kind q).Becomes (ctx.raised p)
      ((ctx.elevating (some p)).whenNeeded kind q') := by
  have hneeds : ((ctx.elevating none).needsInstall kind).Becomes (ctx.raised p)
      ((ctx.elevating (some p)).needsInstall kind) :=
    becomes_user (asks_needsInstall lenient_user fun _ h => by cases h)
  rw [Context.whenNeeded_eq, Context.whenNeeded_eq]
  exact hneeds.bind fun needed => h.when needed

/-- A package of the system is installed by an administrator. -/
theorem becomes_aptInstall (hos : ctx.target.os = .linux) (package : String) :
    ((ctx.elevating none).aptInstall package).Becomes (ctx.raised p)
      ((ctx.elevating (some p)).aptInstall package) := becomes_elevated hos rfl

/-- **The script is downloaded by the user and run by the administrator.** -/
theorem becomes_installFromSource (hos : ctx.target.os = .linux) :
    (NodeJs.installFromSource (ctx.elevating none)).Becomes (ctx.raised p)
      (NodeJs.installFromSource (ctx.elevating (some p))) := by
  have hdownload : (NodeJs.download ctx.settings.nodesourceUrl).Becomes (ctx.raised p)
      (NodeJs.download ctx.settings.nodesourceUrl) :=
    becomes_user (asks_download lenient_user fun _ h => by cases h)
  refine (becomes_step _).bind fun _ => hdownload.bind fun script => ?_
  refine Becomes.withFile _ _ _ _ fun path => ?_
  have hbash : (run ((ctx.elevating none).elevated "bash" [path.text])).Becomes (ctx.raised p)
      (run ((ctx.elevating (some p)).elevated "bash" [path.text])) := becomes_elevated hos rfl
  exact hbash.bind fun _ => becomes_aptInstall hos "nodejs"

/-- Node.js, which on macOS is installed by Homebrew and so by a user. -/
theorem becomes_installNode :
    (NodeJs.install (ctx.elevating none)).Becomes (ctx.raised p)
      (NodeJs.install (ctx.elevating (some p))) := by
  unfold NodeJs.install Context.elevating
  cases hos : ctx.target.os with
  | linux => exact becomes_whenNeeded _ (becomes_installFromSource hos)
  | macOS =>
      exact becomes_user (asks_relinkFormula lenient_user (fun _ h => by cases h)
        fun _ _ _ => asks_user (.brew _))
  | windows => exact becomes_log _ _ _

/-- The npm tools need the rights on Linux, and the script of the project does
on macOS. -/
theorem becomes_installTooling :
    (NodeJs.installTooling (ctx.elevating none)).Becomes (ctx.raised p)
      (NodeJs.installTooling (ctx.elevating (some p))) := by
  have hcommand : ctx.raised p (NodeJs.toolingCommand (ctx.elevating none))
      = NodeJs.toolingCommand (ctx.elevating (some p)) := by
    unfold NodeJs.toolingCommand
    rw [elevating_os, elevating_os]
    cases hos : ctx.target.os with
    | linux =>
        exact raised_elevated (by rw [hos]; decide) (Context.needsAdministrator_linux hos _)
    | macOS =>
        refine raised_elevated (by rw [hos]; decide) ?_
        unfold Context.needsAdministrator
        rw [hos]
        exact beq_self_eq_true _
    | windows =>
        -- There is no prefix on Windows, and the user may install tools.
        have hprivilege : ∀ e, (ctx.elevating e).target.privilege = none := by
          intro e
          unfold Target.privilege
          rw [elevating_os, hos]
        unfold Context.elevated
        rw [hprivilege, hprivilege]
        exact (Context.UserCommand.npm hos _).raised_eq p
  unfold NodeJs.installTooling
  rw [← hcommand]
  exact (becomes_step _).bind fun _ => becomes_run _

/-- Each tool on each system, by the table of the installers. -/
theorem becomes_ensure (kind : Prerequisite) :
    (Prerequisites.ensure (ctx.elevating none) kind).Becomes (ctx.raised p)
      (Prerequisites.ensure (ctx.elevating (some p)) kind) := by
  have hbrew : ∀ formula, (Context.brewInstall formula).Becomes (ctx.raised p)
      (Context.brewInstall formula) := fun _ => becomes_user (asks_run (asks_user (.brew _)))
  unfold Prerequisites.ensure
  rw [elevating_os, elevating_os]
  cases hos : ctx.target.os with
  | linux =>
      cases kind with
      | downloadUtility =>
          exact becomes_whenNeeded _ ((becomes_step _).bind fun _ => becomes_aptInstall hos _)
      | jsRuntime => exact becomes_installNode
      | javaCompiler =>
          exact becomes_whenNeeded _ ((becomes_step _).bind fun _ => becomes_aptInstall hos _)
  | macOS =>
      cases kind with
      | downloadUtility => exact becomes_whenNeeded _ ((becomes_step _).bind fun _ => hbrew _)
      | jsRuntime => exact becomes_installNode
      | javaCompiler =>
          exact becomes_user (asks_installJdkFormula lenient_user
            (fun _ h => by cases h) (fun _ h => by cases h) (asks_user (.brew _)))
  | windows =>
      cases kind with
      | javaCompiler =>
          exact becomes_user (asks_requireJdk lenient_user
            fun _ h => by cases h)
      | _ => exact becomes_log _ _ _

/-- **A library is built by the user and put in place by the administrator.** -/
theorem becomes_nativeBuild (l : NativeLibrary) :
    (NativeBuild.install (ctx.elevating none) l).Becomes (ctx.raised p)
      (NativeBuild.install (ctx.elevating (some p)) l) := by
  unfold NativeBuild.install
  rw [elevating_os, elevating_os]
  cases hos : ctx.target.os with
  | linux =>
      refine Becomes.withDirectory _ _ fun dir => ?_
      -- Of the five commands the prefix is put in front of the last one only.
      have hcommands : (NativeBuild.commands (ctx.elevating none).target.privilege l dir).map
          (ctx.raised p) = NativeBuild.commands (ctx.elevating (some p)).target.privilege l dir := by
        have hinstall : ∀ source, ctx.raised p (.elevated (ctx.elevating none).target.privilege
            "make" ["install"] (some source))
              = .elevated (ctx.elevating (some p)).target.privilege "make" ["install"]
                  (some source) := fun source =>
          raised_elevated (by rw [hos]; decide) (Context.needsAdministrator_linux hos _)
        have huser : ∀ {c}, ctx.UserCommand c → ctx.raised p c = c := fun h => h.raised_eq p
        unfold NativeBuild.commands
        simp only [List.map_cons, List.map_nil, hinstall, huser (.wget _), huser (.tar _),
          huser (.cmake hos _ _), huser (.compile hos _)]
      rw [← hcommands]
      exact (becomes_step _).bind fun _ => (becomes_forM_run _).bind fun _ => becomes_tell _
  | macOS => exact becomes_log _ _ _
  | windows => exact becomes_log _ _ _

/-- **A prefix replaces the administrator's commands**, and nothing else. -/
theorem install_elevating (ctx : Context) (p : String) :
    (Sequence.install (ctx.elevating none)).Becomes (ctx.raised p)
      (Sequence.install (ctx.elevating (some p))) := by
  have hinterpreter : (Sequence.interpreter (ctx.elevating none)).Becomes (ctx.raised p)
      (Sequence.interpreter (ctx.elevating (some p))) :=
    becomes_user (asks_interpreter lenient_user fun _ h => by cases h)
  have hprepare : (Sequence.prepare (ctx.elevating none)).Becomes (ctx.raised p)
      (Sequence.prepare (ctx.elevating (some p))) := by
    rw [Sequence.prepare_eq, Sequence.prepare_eq, elevating_os, elevating_os]
    cases hos : ctx.target.os with
    | linux => exact ((becomes_step _).bind fun _ => becomes_elevated hos rfl).when _
    | macOS => rfl
    | windows => rfl
  have hdeveloper : (Sequence.developerTools (ctx.elevating none)).Becomes (ctx.raised p)
      (Sequence.developerTools (ctx.elevating (some p))) := by
    rw [Sequence.developerTools_eq, Sequence.developerTools_eq]
    exact (becomes_ensure _).bind fun _ => becomes_installNode.bind fun _ =>
      becomes_installTooling.bind fun _ => (becomes_nativeBuild _).when _
  have hpackages : (PythonPackages.install (ctx.elevating none) ctx.config.accelerator
      ctx.config.requirementsPath ctx.config.nightly).Becomes (ctx.raised p)
      (PythonPackages.install (ctx.elevating (some p)) ctx.config.accelerator
        ctx.config.requirementsPath ctx.config.nightly) :=
    becomes_user (asks_packages lenient_user _ _ _
      (fun _ h => by cases h) (asks_user (.conda _)) fun _ => asks_user (.pip _))
  rw [Sequence.install_eq, Sequence.install_eq]
  exact (becomes_log _ _ _).bind fun _ => hinterpreter.bind fun _ => hprepare.bind fun _ =>
    (hdeveloper.when _).bind fun _ => (becomes_ensure _).bind fun _ => hpackages

end Steps

/-! ## §3. There are no other commands. -/

section Kinds

open Context (elevating_os)

variable {ctx : Context}

/-- A command that is run is one of the administrator's or one of a user's. -/
abbrev OfKnownKind (ctx : Context) (r : Request) : Prop :=
  ∀ c, r = .run c → ctx.needsAdministrator c = true ∨ ctx.UserCommand c

theorem lenient_kind : Lenient (OfKnownKind ctx) := by
  intro r hr _ c hc
  rw [hc] at hr
  cases hr

/-- A command of a user is of a known kind. -/
theorem kind_user {c : Command} (h : ctx.UserCommand c) : OfKnownKind ctx (.run c) := by
  intro d hd
  cases hd
  exact .inr h

/-- Without a prefix a command of the administrator is the plain one. -/
theorem kind_administrator {program : String} {arguments : List String}
    {directory : Option Path}
    (h : ctx.needsAdministrator ⟨program, arguments, directory⟩ = true) :
    OfKnownKind ctx (.run (.elevated (ctx.elevating none).target.privilege program arguments
      directory)) := by
  have hprivilege : (ctx.elevating none).target.privilege = none := by
    unfold Target.privilege
    cases (ctx.elevating none).target.os <;> rfl
  intro d hd
  cases hd
  rw [hprivilege]
  exact .inl h

theorem kinds_aptInstall (hos : ctx.target.os = .linux) (package : String) :
    ((ctx.elevating none).aptInstall package).Asks (OfKnownKind ctx) :=
  asks_run (kind_administrator (Context.needsAdministrator_linux hos _))

/-- Node.js takes no third kind of command. -/
theorem kinds_installNode : (NodeJs.install (ctx.elevating none)).Asks (OfKnownKind ctx) := by
  unfold NodeJs.install
  rw [elevating_os]
  cases hos : ctx.target.os with
  | linux =>
      have hlinux := Context.needsAdministrator_linux hos
      exact asks_whenNeeded lenient_kind (fun _ h => by cases h)
        (asks_installFromSource lenient_kind (fun _ h => by cases h)
          (fun _ => kind_administrator (hlinux _)) (kind_administrator (hlinux _)))
  | macOS =>
      exact asks_relinkFormula lenient_kind (fun _ h => by cases h)
        fun _ _ _ => kind_user (.brew _)
  | windows => exact asks_log lenient_kind _ _ _

/-- The npm tools need the rights of an administrator but on Windows. -/
theorem kinds_installTooling :
    (NodeJs.installTooling (ctx.elevating none)).Asks (OfKnownKind ctx) := by
  refine asks_installTooling lenient_kind ?_
  unfold NodeJs.toolingCommand
  rw [elevating_os]
  cases hos : ctx.target.os with
  | linux => exact kind_administrator (Context.needsAdministrator_linux hos _)
  | macOS =>
      refine kind_administrator ?_
      unfold Context.needsAdministrator
      rw [hos]
      exact beq_self_eq_true _
  | windows =>
      unfold Context.elevated Target.privilege
      rw [elevating_os, hos]
      exact kind_user (.npm hos _)

/-- The tools of the system are an administrator's, the formulas of Homebrew a
user's. -/
theorem kinds_ensure (kind : Prerequisite) :
    (Prerequisites.ensure (ctx.elevating none) kind).Asks (OfKnownKind ctx) := by
  unfold Prerequisites.ensure
  rw [elevating_os]
  cases hos : ctx.target.os with
  | linux =>
      cases kind with
      | jsRuntime => exact kinds_installNode
      | _ =>
          exact asks_whenNeeded lenient_kind (fun _ h => by cases h)
            ((asks_step lenient_kind _).bind fun _ => kinds_aptInstall hos _)
  | macOS =>
      cases kind with
      | downloadUtility =>
          exact asks_whenNeeded lenient_kind (fun _ h => by cases h)
            ((asks_step lenient_kind _).bind fun _ => asks_run (kind_user (.brew _)))
      | jsRuntime => exact kinds_installNode
      | javaCompiler =>
          exact asks_installJdkFormula lenient_kind (fun _ h => by cases h)
            (fun _ h => by cases h) (kind_user (.brew _))
  | windows =>
      cases kind with
      | javaCompiler => exact asks_requireJdk lenient_kind fun _ h => by cases h
      | _ => exact asks_log lenient_kind _ _ _

/-- Of the five commands of the build four are a user's and one is the
administrator's. -/
theorem kinds_nativeBuild (l : NativeLibrary) :
    (NativeBuild.install (ctx.elevating none) l).Asks (OfKnownKind ctx) := by
  cases hos : ctx.target.os with
  | linux =>
      refine asks_nativeBuild lenient_kind fun dir => ?_
      unfold NativeBuild.commands
      simp only [List.forall_mem_cons]
      exact ⟨kind_user (.wget _), kind_user (.tar _), kind_user (.cmake hos _ _),
        kind_user (.compile hos _), kind_administrator (Context.needsAdministrator_linux hos _),
        fun _ h => by cases h⟩
  | _ =>
      -- Elsewhere nothing is built.
      unfold NativeBuild.install
      rw [elevating_os, hos]
      exact asks_log lenient_kind _ _ _

/-- **Every command that is run is the administrator's or a user's.** -/
theorem kinds_install (ctx : Context) :
    (Sequence.install (ctx.elevating none)).Asks (OfKnownKind ctx) := by
  have hprepare : (Sequence.prepare (ctx.elevating none)).Asks (OfKnownKind ctx) := by
    rw [Sequence.prepare_eq, elevating_os]
    cases hos : ctx.target.os with
    | linux =>
        exact ((asks_step lenient_kind _).bind fun _ => asks_run
          (kind_administrator (Context.needsAdministrator_linux hos _))).when _
    | _ => exact asks_done ()
  have hdeveloper : (Sequence.developerTools (ctx.elevating none)).Asks (OfKnownKind ctx) := by
    rw [Sequence.developerTools_eq]
    exact (kinds_ensure _).bind fun _ => kinds_installNode.bind fun _ =>
      kinds_installTooling.bind fun _ => (kinds_nativeBuild _).when _
  rw [Sequence.install_eq]
  exact (asks_log lenient_kind _ _ _).bind fun _ =>
    (asks_interpreter lenient_kind fun _ h => by cases h).bind fun _ => hprepare.bind fun _ =>
      (hdeveloper.when _).bind fun _ => (kinds_ensure _).bind fun _ =>
        asks_packages lenient_kind _ _ _ (fun _ h => by cases h) (kind_user (.conda _))
          fun _ => kind_user (.pip _)

end Kinds

/-! ## §4. Two runs. -/

namespace Renaming

variable (N : Renaming) (p : String)

/-- Failures that are alike, but that the second may quote a command behind the
prefix. -/
inductive FailuresBehind : Failure → Failure → Prop
  | alike {e f : Failure} (h : N.Failures e f) : FailuresBehind e f
  | command {line line' : String} (h : N.Alike line line') (code : Option Int) :
      FailuresBehind (.commandFailed line code) (.commandFailed (p ++ " " ++ line') code)

/-- The renaming as a likeness of runs of which the second may quote the prefix. -/
def quoting : Likeness :=
  { N.likeness with
    failure := N.FailuresBehind p
    failure_refl := fun f => .alike (.same f) }

/-- The renaming as a likeness to which a prefix in front of a command makes no
difference. -/
def behind : Likeness :=
  { N.quoting p with
    command := fun c d => N.Commands c d ∨ N.Commands (c.behind p) d
    command_of := fun program _ _ _ _ hxs hd => .inl (N.likeness.command_of program hxs hd) }

variable {N p}

/-- The failures of a command and of the same one behind the prefix. -/
theorem failuresBehind_command (c : Command) (code : Option Int) :
    N.FailuresBehind p (c.failure code) ((c.behind p).failure code) := by
  unfold Command.failure
  rw [line_behind]
  exact .command (.same _) code

/-- Both likenesses take the same answers for alike. -/
theorem answers_quoting {e f : Exchange} {g : Command → Command}
    (h : (N.behind p).Answers e f) : (N.quoting p).Answers (e.mapCommand g) f := by
  have houtcomes : ∀ {α β : Type} {R S : α → β → Prop} {x : Except Failure α}
      {y : Except Failure β}, (∀ a b, R a b → S a b) → (N.behind p).Outcomes R x y →
      (N.quoting p).Outcomes S x y := by
    intro α β R S x y hRS hxy
    cases hxy with
    | ok hab => exact .ok (hRS _ _ hab)
    | error he => exact .error he
  obtain ⟨q, x⟩ := e
  obtain ⟨r, y⟩ := f
  -- Answers do not speak of commands; only failures do, and both likenesses take the
  -- same ones for alike.
  cases q <;> cases r <;> first | trivial | exact h | exact houtcomes (fun _ _ h => h) h

/-- What is alike once the prefix is put in front of it was alike before. -/
theorem requests_behind {ctx : Context} {q r : Request}
    (h : (N.quoting p).Requests (q.mapCommand (ctx.raised p)) r) : (N.behind p).Requests q r := by
  have hother : (N.quoting p).Requests q r → (N.behind p).Requests q r :=
    Likeness.Requests.imp (L := N.quoting p) (M := N.behind p) (fun h => h) .inl fun h => h
  cases q with
  | run c =>
      cases h with
      | run hc =>
          change N.Commands (ctx.raised p c) _ at hc
          unfold Context.raised at hc
          split at hc
          · exact .run (.inr hc)
          · exact .run (.inl hc)
  | _ => exact hother h

/-- **What a runner that does not look at the prefix answers in turn** it also
answers to the commands that the prefix is put in front of. -/
theorem inTurn_raised {ctx : Context} {E F : Account} (h : (N.behind p).InTurn E F) :
    (N.quoting p).InTurn (E.map (Exchange.mapCommand (ctx.raised p))) F := by
  induction E generalizing F with
  | nil => cases F <;> trivial
  | cons e E ih =>
      cases F with
      | nil => trivial
      | cons f F =>
          intro hr
          rw [request_mapCommand] at hr
          obtain ⟨hanswers, hrest⟩ := h (requests_behind hr)
          exact ⟨answers_quoting hanswers, ih hrest⟩

end Renaming

/-- **Elevation is confined, and makes no other difference.**  Let a run without
a prefix and one with it be performed on hosts that answer alike as long as they
are asked alike, be it with the prefix in front of a command or without it.
Then both end alike, failures being equal but for the prefix in a command that
they quote, and the calls to the runner are the same in their order, but that
exactly the commands that need the rights of the administrator stand behind the
prefix.  All others are commands of a user, which never do, as no captured
command does; and on Windows no command does at all. -/
theorem install_elevation {σ τ : Type} (N : Renaming) (ctx : Context) (p : String)
    (host : Host σ) (host' : Host τ) (s : σ) (t : τ)
    (hturn : (N.behind p).InTurn
      ((Sequence.install (ctx.elevating none)).account host s)
      ((Sequence.install (ctx.elevating (some p))).account host' t)) :
    (N.quoting p).Outcomes Eq ((Sequence.install (ctx.elevating none)).perform host s).1
        ((Sequence.install (ctx.elevating (some p))).perform host' t).1
      ∧ List.Forall₂ N.likeness.Requests
          (((Sequence.install (ctx.elevating none)).account host s).runnerCalls.map
            (Request.mapCommand (ctx.raised p)))
          ((Sequence.install (ctx.elevating (some p))).account host' t).runnerCalls
      ∧ (∀ c, .run c ∈ ((Sequence.install (ctx.elevating none)).account host s).runnerCalls →
          ctx.needsAdministrator c = true ∨ ctx.UserCommand c)
      ∧ (∀ c, ctx.UserCommand c → ctx.raised p c = c)
      ∧ (ctx.target.os = .windows → ∀ c, ctx.raised p c = c) := by
  have hplain := leads_account host (Sequence.install (ctx.elevating none)) s
  have helevated := leads_account host' (Sequence.install (ctx.elevating (some p))) t
  -- The account without a prefix, with the commands replaced, is one with the prefix.
  have hraised := leads_mapCommands (f := ctx.raised p) hplain
  rw [install_elevating ctx p] at hraised
  obtain ⟨halike, houtcome⟩ :=
    (Likeness.alike_install (L := N.quoting p) (Likeness.contexts_refl _)).inTurn hraised
      helevated (Renaming.inTurn_raised hturn)
  refine ⟨houtcome, ?calls, ?kinds, fun c h => h.raised_eq p, ?windows⟩
  case calls =>
    rw [← runnerCalls_mapCommand]
    refine (Likeness.runnerCalls_alike halike).imp ?_
    intro q r h
    exact h.imp (L := N.quoting p) (M := N.likeness) (fun h => h) (fun h => h) fun h => h
  case kinds =>
    intro c hc
    obtain ⟨e, he, hrequest⟩ := List.mem_map.mp (List.mem_of_mem_filter hc)
    exact kinds_install ctx _ _ hplain e he c hrequest
  case windows =>
    intro hos c
    unfold Context.raised Context.needsAdministrator
    rw [hos]
    rfl

/-! ## §5. On recorders. -/

section Recorders

variable {p : String} {u v : Recorder}

/-- Two recorders with the same rules, none of which is about the prefix. -/
structure SameRules (p : String) (u v : Recorder) : Prop where
  failures : u.failures = v.failures
  outputs : u.outputs = v.outputs
  foreign : ∀ rule ∈ u.failures, rule.1 ≠ p

theorem path_eq {a b : Path} (h : Renaming.Alike {} a.text b.text) : a = b := by
  cases a
  cases b
  exact congrArg Path.mk (Renaming.alike_iff_eq.mp h)

/-- Without renaming, alike commands are equal. -/
theorem commands_eq {c d : Command} (h : Renaming.Commands {} c d) : c = d := by
  obtain ⟨program, arguments, directory⟩ := c
  obtain ⟨program', arguments', directory'⟩ := d
  obtain ⟨hprogram, harguments, hdirectory⟩ := h
  have hxs : arguments = arguments' := by
    rw [← List.forall₂_eq_eq_eq]
    exact harguments.imp fun _ _ => Renaming.alike_iff_eq.mp
  have hd : directory = directory' := by
    cases hdirectory with
    | none => rfl
    | some hpath => exact congrArg some (path_eq hpath)
  subst hprogram hxs hd
  rfl

/-- A rule that is not about the prefix does not see it. -/
theorem failureOf?_behind (h : SameRules p u v) (c : Command) :
    v.failureOf? (c.behind p) = u.failureOf? c := by
  have hmentions : ∀ w, w ≠ p → (c.behind p).mentions w = c.mentions w := by
    intro w hw
    have hp : (p == w) = false := beq_eq_false_iff_ne.mpr hw.symm
    unfold Command.mentions Command.behind
    rw [hp, Bool.false_or, List.contains_cons, BEq.comm]
  have hforeign := h.foreign
  unfold Recorder.failureOf?
  rw [← h.failures]
  -- On the rules: the first one that mentions a word of the command decides, with the
  -- prefix and without.
  generalize u.failures = rules at hforeign
  induction rules with
  | nil => rfl
  | cons rule rules ih =>
      rw [List.find?_cons, List.find?_cons, hmentions _ (hforeign rule (List.mem_cons_self ..))]
      cases c.mentions rule.1 with
      | true => rfl
      | false => exact ih fun rule hrule => hforeign rule (List.mem_cons_of_mem _ hrule)

/-- The result of a command that has the prefix in front of it or not. -/
theorem outcomes_run (h : SameRules p u v) {c d : Command}
    (hcd : (Renaming.behind {} p).command c d) :
    (Renaming.behind {} p).Outcomes (fun _ _ => True) (u.runResult c) (v.runResult d) := by
  have hrules : v.failureOf? d = u.failureOf? c := by
    rcases hcd with hsame | hbehind
    · unfold Recorder.failureOf?
      rw [h.failures, commands_eq hsame]
    · rw [← commands_eq hbehind, failureOf?_behind h]
  have hfailure : ∀ code, Renaming.FailuresBehind {} p (c.failure code) (d.failure code) := by
    intro code
    rcases hcd with hsame | hbehind
    · rw [commands_eq hsame]
      exact .alike (.same _)
    · rw [← commands_eq hbehind]
      exact Renaming.failuresBehind_command c code
  unfold Recorder.runResult
  rw [hrules]
  cases u.failureOf? c with
  | none => exact Likeness.Outcomes.ok trivial
  | some code => exact .error (hfailure _)

/-- **A recorder does not look at a prefix that no rule is about.** -/
theorem answers_recorder (h : SameRules p u v) {r s : Request}
    (hr : (Renaming.behind {} p).Requests r s) :
    (Renaming.behind {} p).Answers ⟨r, (Recorder.host r u).1⟩ ⟨s, (Recorder.host s v).1⟩
      ∧ SameRules p (Recorder.host r u).2 (Recorder.host s v).2 := by
  have hpath : ∀ {a b : Path}, (Renaming.behind {} p).path a b → a = b := path_eq
  cases hr with
  | run hcd => exact ⟨outcomes_run h hcd, h.failures, h.outputs, h.foreign⟩
  | capture c =>
      refine ⟨?_, h.failures, h.outputs, h.foreign⟩
      show Except.ok (u.captureResult c) = Except.ok (v.captureResult c)
      unfold Recorder.captureResult Recorder.failureOf?
      rw [h.failures, h.outputs]
  | createFile hp before after content content' =>
      rw [hpath hp]
      exact ⟨.ok (.same _), h⟩
  | createDirectory hp before =>
      rw [hpath hp]
      exact ⟨.ok (.same _), h⟩
  | fetch url => exact ⟨.ok trivial, h⟩
  | locate tool => exact ⟨rfl, h⟩
  | discard hp => exact ⟨trivial, h⟩
  | doesExist path => exact ⟨rfl, h⟩
  | read path => exact ⟨rfl, h⟩
  | tell hn => exact ⟨trivial, h⟩
  | log x y => exact ⟨trivial, h⟩

end Recorders

/-- A recorder with a recent interpreter, on which no JDK can be installed. -/
def withoutJdk : Recorder := recentPython.failOn "openjdk-17-jdk" 100

/-- A developer's run ends at the JDK with a prefix as it does without one. -/
theorem install_elevation_recorder :
    (Renaming.quoting {} "sudo").Outcomes Eq
        ((Sequence.install (developerContext.elevating none)).perform Recorder.host withoutJdk).1
        ((Sequence.install (developerContext.elevating (some "sudo"))).perform Recorder.host
          withoutJdk).1
      ∧ List.Forall₂ (Renaming.likeness {}).Requests
          (((Sequence.install (developerContext.elevating none)).account Recorder.host
            withoutJdk).runnerCalls.map (Request.mapCommand (developerContext.raised "sudo")))
          ((Sequence.install (developerContext.elevating (some "sudo"))).account Recorder.host
            withoutJdk).runnerCalls := by
  have hrules : SameRules "sudo" withoutJdk withoutJdk := ⟨rfl, rfl, by decide⟩
  obtain ⟨houtcome, hcalls, -⟩ := install_elevation {} developerContext "sudo" Recorder.host
    Recorder.host withoutJdk withoutJdk
    (Likeness.inTurn_account (I := SameRules "sudo") (fun _ _ _ _ h => answers_recorder h) _ _
      hrules)
  exact ⟨houtcome, hcalls⟩

/-- The failure quotes the prefix. -/
example :
    ((Sequence.install (developerContext.elevating none)).perform Recorder.host withoutJdk).1
        = .error (.commandFailed "apt-get install -y openjdk-17-jdk" (some 100))
      ∧ ((Sequence.install (developerContext.elevating (some "sudo"))).perform Recorder.host
          withoutJdk).1
        = .error (.commandFailed "sudo apt-get install -y openjdk-17-jdk" (some 100)) := by
  decide +kernel

end Provision
