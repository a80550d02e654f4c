/-
  Provision.Proofs.Nightly
  ────────────────────────
  **ONE COMMAND MORE.**

  An installation that asks for the nightly build is the one that does not, and
  one command after it.  So two runs that are answered alike make alike calls
  until the one without the nightly build ends: where it fails the other one
  fails in the same way, and where it succeeds the other one goes on to the
  nightly command, whose result is its own.

  The command names the index of the nightly build: the base address without
  slashes at its end, one slash, and the tag of the build, which for an
  accelerator is the one in the name of torch's requirements file.

  Main results:

    `install_withNightly`      the nightly build is one more step at the end
    `Procedures.inTurn_bind`   two runs of which one goes on
    `indexAt_nightlyIndexFor`  the index of a build
    `install_nightly`          the nightly build is one more command at the end
-/
import Mathlib.Data.List.DropRight
import Provision.Proofs.Asked
import Provision.Proofs.Plan
import Provision.Proofs.Replay

namespace Provision

open Procedure

/-! ## §1. One more step. -/

namespace Context

/-- The context with the nightly build or without it. -/
def withNightly (ctx : Context) (b : Bool) : Context :=
  { ctx with config := { ctx.config with nightly := b } }

/-- The context with another scratch directory. -/
def scratchAt (ctx : Context) (scratch : Path) : Context := { ctx with scratch := scratch }

end Context

namespace PythonPackages

/-- The last step of the packages is the nightly build, if it is asked for. -/
theorem installFor_nightly (ctx : Context) (os : Os) (a : Option Accelerator)
    (requirements : Path) :
    installFor ctx os a requirements true
      = (installFor ctx os a requirements false).bind fun _ => nightlyTorch ctx a true := by
  cases hu : unsupported? os a with
  | some e =>
      -- There is no last step behind a refusal.
      rw [installFor_unsupported hu, installFor_unsupported hu]
      rfl
  | none =>
      rw [installFor_eq hu, installFor_eq hu]
      simp only [bind_assoc]
      rfl

end PythonPackages

/-- **The nightly build is one more step at the end.** -/
theorem install_withNightly (ctx : Context) :
    Sequence.install (ctx.withNightly true)
      = (Sequence.install (ctx.withNightly false)).bind fun _ =>
          PythonPackages.nightlyTorch ctx ctx.config.accelerator true := by
  have hlast := PythonPackages.installFor_nightly (ctx.withNightly true) ctx.target.os
    ctx.config.accelerator ctx.config.requirementsPath
  rw [Sequence.install_eq, Sequence.install_eq]
  unfold Sequence.steps
  simp only [bind_assoc]
  -- Whatever comes before the packages does not ask for the nightly build.
  exact congrArg (fun last => (Sequence.opening ctx).bind fun _ =>
    (Sequence.interpreter ctx).bind fun _ => (Sequence.prepare ctx).bind fun _ =>
      (when ctx.config.isDev (Sequence.developerTools ctx)).bind fun _ =>
        (Prerequisites.ensure ctx .javaCompiler).bind fun _ => last) hlast

/-! ## §2. Two runs of which one goes on. -/

namespace Likeness

variable {L : Likeness}

/-- What agrees in turn with a whole account agrees in turn with its beginning. -/
theorem InTurn.left {E F G : Account} (h : L.InTurn E (F ++ G)) : L.InTurn E F := by
  induction E generalizing F with
  | nil => cases F <;> trivial
  | cons e E ih =>
      cases F with
      | nil => trivial
      | cons f F =>
          intro hr
          obtain ⟨hanswers, hrest⟩ := h hr
          exact ⟨hanswers, ih hrest⟩

/-- An account agrees in turn with one that begins with it. -/
theorem inTurn_append (E F : Account) : L.InTurn E (E ++ F) := by
  induction E with
  | nil => cases F <;> trivial
  | cons e E ih => exact fun _ => ⟨answers_refl e, ih⟩

/-- **Two runs of which one goes on** where the other one ends: they are alike up
to there, and after a failure there is nothing more. -/
theorem Procedures.inTurn_bind {α β γ : Type} {R : α → β → Prop} {p : Procedure α}
    {q : Procedure β} {f : β → Procedure γ} {E F : Account} {x : Except Failure α}
    {y : Except Failure γ} (h : L.Procedures R p q) (hp : p.Leads E x)
    (hq : (q.bind f).Leads F y) (hturn : L.InTurn E F) :
    (∃ e e', x = .error e ∧ y = .error e' ∧ L.failure e e' ∧ List.Forall₂ L.Exchanges E F)
      ∨ ∃ a b F₁ F₂, x = .ok a ∧ R a b ∧ F = F₁ ++ F₂ ∧ List.Forall₂ L.Exchanges E F₁
          ∧ (f b).Leads F₂ y := by
  rcases leads_bind.mp hq with ⟨e', hqe, rfl⟩ | ⟨b, F₁, F₂, rfl, hqb, hfb⟩
  · obtain ⟨hEF, houtcome⟩ := h.inTurn hp hqe hturn
    cases houtcome with
    | error he => exact .inl ⟨_, e', rfl, rfl, he, hEF⟩
  · obtain ⟨hEF, houtcome⟩ := h.inTurn hp hqb hturn.left
    cases houtcome with
    | ok hab => exact .inr ⟨_, b, F₁, F₂, rfl, hab, rfl, hEF, hfb⟩

end Likeness

/-! ## §3. The index of the nightly build. -/

/-- A number of slashes. -/
def slashes (n : Nat) : String := String.ofList (List.replicate n '/')

/-- The index of a build: the base address without the slashes at its end, one
slash and the tag of the build. -/
def IndexAt (base tag index : String) : Prop :=
  ∃ stem n, base = stem ++ slashes n ∧ stem.toList.getLast? ≠ some '/'
    ∧ index = stem ++ "/" ++ tag

theorem indexAt_nightlyIndexFor (s : Settings) (tag : String) :
    IndexAt s.nightlyIndexUrl tag (s.nightlyIndexFor tag) := by
  have hindex : s.nightlyIndexFor tag = String.ofList
      (List.rdropWhile (· == '/') s.nightlyIndexUrl.toList) ++ "/" ++ tag := rfl
  -- The base address is what stands before the slashes at its end, and these.
  have hcut := List.rdropWhile_append_rtakeWhile (p := (· == '/')) (l := s.nightlyIndexUrl.toList)
  have hslash : ∀ c ∈ List.rtakeWhile (· == '/') s.nightlyIndexUrl.toList, c = '/' :=
    fun c hc => eq_of_beq (List.mem_rtakeWhile_imp (p := (· == '/')) hc)
  have hlast := List.rdropWhile_last_not (· == '/') s.nightlyIndexUrl.toList
  generalize List.rdropWhile (· == '/') s.nightlyIndexUrl.toList = stem at hindex hcut hlast
  generalize List.rtakeWhile (· == '/') s.nightlyIndexUrl.toList = ending at hcut hslash
  refine ⟨String.ofList stem, ending.length, ?_, ?_, hindex⟩
  · rw [← String.toList_inj, String.toList_append, String.toList_ofList, slashes,
      String.toList_ofList, ← List.eq_replicate_of_mem hslash, hcut]
  · rw [String.toList_ofList]
    intro hends
    obtain ⟨hne, hget⟩ := List.mem_getLast?_eq_getLast hends
    exact hlast hne (beq_iff_eq.mpr hget.symm)

/-- Slashes at the end of the base address make no difference. -/
theorem nightlyIndexFor_slashes (s : Settings) (tag : String) (n : Nat) :
    Settings.nightlyIndexFor { s with nightlyIndexUrl := s.nightlyIndexUrl ++ slashes n } tag
      = s.nightlyIndexFor tag := by
  induction n with
  | zero =>
      show Settings.nightlyIndexFor { s with nightlyIndexUrl := s.nightlyIndexUrl ++ "" } tag = _
      rw [String.append_empty]
  | succ n ih =>
      have hlast : s.nightlyIndexUrl ++ slashes (n + 1) = s.nightlyIndexUrl ++ slashes n ++ "/" := by
        rw [slashes, List.replicate_succ', String.ofList_append, ← String.append_assoc]
        rfl
      rw [hlast, ← ih]
      exact Settings.nightlyIndex_append_slash
        { s with nightlyIndexUrl := s.nightlyIndexUrl ++ slashes n } tag

/-! ## §4. One more command. -/

/-- One host answers both runs alike, if they begin in one state. -/
theorem inTurn_nightly {σ : Type} (L : Likeness) (host : Host σ) (ctx : Context) (s : σ) :
    L.InTurn ((Sequence.install (ctx.withNightly false)).account host s)
      ((Sequence.install (ctx.withNightly true)).account host s) := by
  rw [install_withNightly, account_bind]
  exact Likeness.inTurn_append _ _

/-- The command of the nightly build: pip installs the nightly packages from the
index of a build, which is that without an accelerator, or the one that torch's
requirements file is named after. -/
def OfNightly (ctx : Context) (c : Command) : Prop :=
  ∃ tag index,
    c = ⟨ctx.settings.python, ["-m", "pip", "install", "numpy", "--pre", "torch[dynamo]",
        "torchvision", "torchtext", "torchaudio", "--force-reinstall", "--extra-index-url",
        index], none⟩
      ∧ IndexAt ctx.settings.nightlyIndexUrl tag index
      ∧ (ctx.config.accelerator = none → tag = "cpu")
      ∧ ∀ a, ctx.config.accelerator = some a →
          PythonPackages.torchRequirementsFile ctx.target.os (some a)
            = "requirements/torch_" ++ tag ++ "_" ++ ctx.target.os.systemName ++ ".txt"

theorem ofNightly_nightlyCommand (ctx : Context) :
    OfNightly ctx (PythonPackages.nightlyCommand ctx ctx.config.accelerator) := by
  refine ⟨buildTag ctx.config.accelerator, _, rfl, indexAt_nightlyIndexFor _ _, ?_, ?_⟩
  · intro hnone
    rw [hnone]
    rfl
  · intro a hsome
    rw [hsome]
    rfl

/-- The nightly step tells the user what it does and runs its command. -/
theorem leads_nightlyTorch {ctx : Context} {a : Option Accelerator} {E : Account}
    {r : Except Failure Unit} (h : (PythonPackages.nightlyTorch ctx a true).Leads E r) :
    ∃ told, E = [told, ⟨.run (PythonPackages.nightlyCommand ctx a), r⟩]
      ∧ told.request.toRunner = false := by
  obtain ⟨_, F, rfl, hrun⟩ := leads_ask.mp h
  obtain ⟨x, G, rfl, hend⟩ := leads_ask.mp hrun
  obtain ⟨rfl, rfl⟩ := leads_ofExcept.mp hend
  exact ⟨_, rfl, rfl⟩

/-- **The nightly build is one more command at the end.**  Let an installation
without the nightly build and one with it be performed on hosts that answer alike
as long as they are asked alike.  Where the first one fails, the second one makes
the same calls and fails in the same way; where it succeeds, the second one makes
the same calls and then runs the nightly command, whose result is its own.  The
command takes the packages from the index of the build that torch was installed
for, and slashes at the end of the base address make no difference to it. -/
theorem install_nightly {σ τ : Type} (N : Renaming) (ctx : Context) (scratch : Path)
    (host : Host σ) (host' : Host τ) (s : σ) (t : τ)
    (hscratch : N.Alike ctx.scratch.text scratch.text)
    (hturn : N.likeness.InTurn ((Sequence.install (ctx.withNightly false)).account host s)
      ((Sequence.install ((ctx.withNightly true).scratchAt scratch)).account host' t)) :
    let off := Sequence.install (ctx.withNightly false)
    let on := Sequence.install ((ctx.withNightly true).scratchAt scratch)
    let nightly := PythonPackages.nightlyCommand ctx ctx.config.accelerator
    (∀ e, (off.perform host s).1 = .error e →
        (∃ f, (on.perform host' t).1 = .error f ∧ N.Failures e f)
          ∧ List.Forall₂ N.likeness.Requests (off.account host s).runnerCalls
              (on.account host' t).runnerCalls)
      ∧ ((off.perform host s).1 = .ok () →
        ∃ calls,
          (on.account host' t).runnerCalls = calls ++ [.run nightly]
            ∧ List.Forall₂ N.likeness.Requests (off.account host s).runnerCalls calls
            ∧ (on.account host' t).getLast?
                = some ⟨.run nightly, (on.perform host' t).1⟩
            ∧ .run (PythonPackages.torchCommand ctx ctx.target.os ctx.config.accelerator)
                ∈ (off.account host s).runnerCalls)
      ∧ OfNightly ctx nightly
      ∧ ∀ n, PythonPackages.nightlyCommand
          { ctx with settings := { ctx.settings with
              nightlyIndexUrl := ctx.settings.nightlyIndexUrl ++ slashes n } }
          ctx.config.accelerator = nightly := by
  intro off on nightly
  have hsplit : on = (Sequence.install ((ctx.withNightly false).scratchAt scratch)).bind fun _ =>
      PythonPackages.nightlyTorch ctx ctx.config.accelerator true :=
    install_withNightly (ctx.scratchAt scratch)
  have halike : N.likeness.Procedures Eq off
      (Sequence.install ((ctx.withNightly false).scratchAt scratch)) :=
    Likeness.alike_install (Likeness.contexts_scratch (ctx.withNightly false) hscratch)
  have hoff := leads_account host off s
  have hon := leads_account host' on t
  -- All that matters of the hosts is where the two accounts lead.
  generalize off.account host s = E at hturn hoff ⊢
  generalize (off.perform host s).1 = x at hoff ⊢
  generalize on.account host' t = F at hturn hon ⊢
  generalize (on.perform host' t).1 = y at hon ⊢
  rw [hsplit] at hon
  refine ⟨?fails, ?succeeds, ofNightly_nightlyCommand ctx, fun n => ?slashes⟩
  case fails =>
    rintro e rfl
    rcases halike.inTurn_bind hoff hon hturn with
      ⟨_, f, heq, rfl, hfailure, halikes⟩ | ⟨_, _, _, _, heq, -⟩
    · cases heq
      exact ⟨⟨f, rfl, hfailure⟩, Likeness.runnerCalls_alike halikes⟩
    · cases heq
  case succeeds =>
    rintro rfl
    rcases halike.inTurn_bind hoff hon hturn with
      ⟨_, _, heq, -⟩ | ⟨_, _, F₁, F₂, -, -, rfl, halikes, hnightly⟩
    · cases heq
    · obtain ⟨told, rfl, htold⟩ := leads_nightlyTorch hnightly
      refine ⟨F₁.runnerCalls, ?_, Likeness.runnerCalls_alike halikes, ?_, ?_⟩
      · rw [Account.runnerCalls_append, Account.runnerCalls_cons, htold]
        rfl
      · rw [List.getLast?_append]
        rfl
      · have htorch : off.Visits (.run (PythonPackages.torchCommand (ctx.withNightly false)
            ctx.target.os ctx.config.accelerator)) := visits_torch
        exact List.mem_filter.mpr ⟨htorch E () hoff, rfl⟩
  case slashes =>
    unfold PythonPackages.nightlyCommand
    rw [nightlyIndexFor_slashes]
    rfl

/-- A developer's context with an accelerator, and with slashes at the end of the
base address. -/
def mirroredContext : Context :=
  { developerContext with
    config := { developerContext.config with accelerator := some .cu116 }
    settings := { nightlyIndexUrl := "https://mirror.test/nightly//" } }

/-- On a recorder the run ends with the packages of the accelerator's build. -/
theorem install_nightly_mirrored :
    let off := Sequence.install (mirroredContext.withNightly false)
    let on := Sequence.install (mirroredContext.withNightly true)
    (off.perform Recorder.host recentPython).1.isOk = true
      ∧ ∃ calls,
          (on.account Recorder.host recentPython).runnerCalls
              = calls ++ [.run ⟨"python3", ["-m", "pip", "install", "numpy", "--pre",
                  "torch[dynamo]", "torchvision", "torchtext", "torchaudio", "--force-reinstall",
                  "--extra-index-url", "https://mirror.test/nightly/cu116"], none⟩]
            ∧ List.Forall₂ (Renaming.likeness {}).Requests
                (off.account Recorder.host recentPython).runnerCalls calls := by
  intro off on
  have hok : (off.perform Recorder.host recentPython).1.isOk = true := by decide +kernel
  have hcommand : PythonPackages.nightlyCommand mirroredContext (some .cu116)
      = ⟨"python3", ["-m", "pip", "install", "numpy", "--pre", "torch[dynamo]", "torchvision",
          "torchtext", "torchaudio", "--force-reinstall", "--extra-index-url",
          "https://mirror.test/nightly/cu116"], none⟩ := by decide +kernel
  refine ⟨hok, ?_⟩
  cases hresult : (off.perform Recorder.host recentPython).1 with
  | error e =>
      rw [hresult] at hok
      cases hok
  | ok u =>
      obtain ⟨-, hsucceeds, -⟩ := install_nightly {} mirroredContext mirroredContext.scratch
        Recorder.host Recorder.host recentPython recentPython (.same _)
        (inTurn_nightly _ Recorder.host mirroredContext recentPython)
      obtain ⟨calls, hcalls, halike, -⟩ := hsucceeds hresult
      rw [← hcommand]
      exact ⟨calls, hcalls, halike⟩

end Provision
