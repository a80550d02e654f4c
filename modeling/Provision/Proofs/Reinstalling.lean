/-
  Provision.Proofs.Reinstalling
  ─────────────────────────────
  **INSTALLING AGAIN WHAT IS THERE.**

  A run that installs again what is there does all that a run does which leaves
  it alone, and more: on Linux it refreshes the package index first, and each
  tool that was there is installed once more where its turn is.  The two lists
  of calls are laid side by side: the calls of the longer run are the added ones
  and those of the shorter run, each in their order.

  Main results:

    `Interleaved.append`    lists are interleaved part by part
    `interleaved_steps`     the steps after the first calls, with what is added
    `install_forced`        the two runs on hosts that give the same replies
-/
import Provision.Proofs.LessWork

namespace Provision

open Procedure

/-! ## §1. One list between another. -/

/-- The third list is the first two, laid into each other, each in its order. -/
inductive Interleaved {α : Type} : List α → List α → List α → Prop
  | nil : Interleaved [] [] []
  | left {a : α} {xs ys zs : List α} (h : Interleaved xs ys zs) :
      Interleaved (a :: xs) ys (a :: zs)
  | right {a : α} {xs ys zs : List α} (h : Interleaved xs ys zs) :
      Interleaved xs (a :: ys) (a :: zs)

namespace Interleaved

variable {α : Type} {xs xs' ys ys' zs zs' : List α}

/-- Everything is added where nothing was. -/
theorem all_left (xs : List α) : Interleaved xs [] xs := by
  induction xs with
  | nil => exact .nil
  | cons x xs ih => exact ih.left

/-- Nothing is added to what is there. -/
theorem all_right (ys : List α) : Interleaved [] ys ys := by
  induction ys with
  | nil => exact .nil
  | cons y ys ih => exact ih.right

/-- **Lists are interleaved part by part.** -/
theorem append (h : Interleaved xs ys zs) (h' : Interleaved xs' ys' zs') :
    Interleaved (xs ++ xs') (ys ++ ys') (zs ++ zs') := by
  -- On how the first two lists are laid into each other; after them come the other two.
  induction h with
  | nil => exact h'
  | left _ ih => exact ih.left
  | right _ ih => exact ih.right

/-- The list that something is added to is still there, in its order. -/
theorem sublist_right (h : Interleaved xs ys zs) : ys.Sublist zs := by
  induction h with
  | nil => exact .slnil
  | left _ ih => exact ih.cons _
  | right _ ih => exact ih.cons_cons _

/-- Where nothing is added the lists are equal. -/
theorem eq_of_nil (h : Interleaved [] ys zs) : ys = zs := by
  generalize hxs : ([] : List α) = xs at h
  induction h with
  | nil => rfl
  | left _ _ => cases hxs
  | right _ ih => rw [ih hxs]

end Interleaved

/-! ## §2. What is added. -/

namespace Plan

variable (ctx : Context) (has : String → Bool)

/-- The calls that install a tool again: of those that a developer's run skips
where they are there, and of the compiler. -/
def reinstalled (script : Path) : List Request :=
  (if ctx.config.environment == .developer then
    (if has "wget" then downloadUtility (ctx.forcing true) has else [])
      ++ (if ctx.target.os == .linux && has "node" then node (ctx.forcing true) has script else [])
    else [])
  ++ (if has "javac" then jdk (ctx.forcing true) has else [])

/-- The calls after those that come first. -/
def steps (script dir : Path) : List Request :=
  developerTools ctx has script dir ++ jdk ctx has ++ packages ctx has

/-- The plan: first the question to the interpreter and the package index, then
the steps. -/
theorem calls_eq (script dir : Path) :
    calls ctx has script dir = interpreter ctx ++ packageIndex ctx ++ steps ctx has script dir := by
  simp only [calls, steps, List.append_assoc]

variable {ctx has}

theorem needs_forced (tool : String) : needs (ctx.forcing true) has tool = true := rfl

theorem needs_unforced (tool : String) : needs (ctx.forcing false) has tool = !has tool := rfl

/-- A tool that is there is installed again. -/
theorem interleaved_needed (tool : String) (xs : List Request) :
    Interleaved (if has tool then xs else [])
      (if needs (ctx.forcing false) has tool then xs else [])
      (if needs (ctx.forcing true) has tool then xs else []) := by
  rw [needs_forced, needs_unforced, if_pos rfl]
  cases has tool with
  | true => exact .all_left xs
  | false => exact .all_right xs

/-- The download utility, which Windows goes without. -/
theorem interleaved_downloadUtility :
    Interleaved (if has "wget" then downloadUtility (ctx.forcing true) has else [])
      (downloadUtility (ctx.forcing false) has) (downloadUtility (ctx.forcing true) has) := by
  unfold downloadUtility
  rw [forcing_os, forcing_os]
  cases ctx.target.os with
  | windows =>
      rw [ite_self]
      exact .nil
  | _ => exact interleaved_needed "wget" _

/-- Node.js, which on macOS is installed with force and without. -/
theorem interleaved_node (script : Path) :
    Interleaved
      (if ctx.target.os == .linux && has "node" then node (ctx.forcing true) has script else [])
      (node (ctx.forcing false) has script) (node (ctx.forcing true) has script) := by
  unfold node
  rw [forcing_os, forcing_os]
  cases ctx.target.os with
  | linux => exact interleaved_needed "node" _
  -- On macOS the formula is linked again in any case.
  | macOS => exact .all_right _
  | windows => exact .all_right _

/-- The JDK: on macOS with the question to Homebrew before it. -/
theorem interleaved_jdk :
    Interleaved (if has "javac" then jdk (ctx.forcing true) has else [])
      (jdk (ctx.forcing false) has) (jdk (ctx.forcing true) has) := by
  unfold jdk
  rw [forcing_os, forcing_os]
  cases ctx.target.os with
  | windows =>
      rw [ite_self]
      exact .nil
  | _ => exact interleaved_needed "javac" _

/-- **What is added to the steps** is what is installed again. -/
theorem interleaved_steps (script dir : Path) :
    Interleaved (reinstalled ctx has script) (steps (ctx.forcing false) has script dir)
      (steps (ctx.forcing true) has script dir) := by
  have htools : Interleaved
      (if ctx.config.environment == .developer then
        (if has "wget" then downloadUtility (ctx.forcing true) has else [])
          ++ (if ctx.target.os == .linux && has "node" then
            node (ctx.forcing true) has script else [])
        else [])
      (developerTools (ctx.forcing false) has script dir)
      (developerTools (ctx.forcing true) has script dir) := by
    unfold developerTools
    change Interleaved _ (if ctx.config.environment == .developer then _ else _)
      (if ctx.config.environment == .developer then _ else _)
    cases ctx.config.environment with
    | production => exact .nil
    | developer =>
        have hutility : Interleaved
            (if has "wget" then downloadUtility (ctx.forcing true) has else [])
            (downloadUtility (ctx.forcing false) has) (downloadUtility (ctx.forcing true) has) :=
          interleaved_downloadUtility
        have hnode : Interleaved
            (if ctx.target.os == .linux && has "node" then
              node (ctx.forcing true) has script else [])
            (node (ctx.forcing false) has script) (node (ctx.forcing true) has script) :=
          interleaved_node script
        have hrest := Interleaved.all_right (tooling ctx ++ nativeLibrary ctx dir)
        have hparts := hutility.append (hnode.append hrest)
        simp only [List.append_nil] at hparts
        simp only [beq_self_eq_true, if_true, List.append_assoc]
        exact hparts
  have hjdk : Interleaved (if has "javac" then jdk (ctx.forcing true) has else [])
      (jdk (ctx.forcing false) has) (jdk (ctx.forcing true) has) := interleaved_jdk
  have hparts := htools.append (hjdk.append (Interleaved.all_right (packages ctx has)))
  rw [List.append_nil] at hparts
  unfold reinstalled steps
  rw [List.append_assoc, List.append_assoc]
  exact hparts

/-- Nothing is installed again on Windows. -/
theorem reinstalled_windows (hos : ctx.target.os = .windows) (script : Path) :
    reinstalled ctx has script = [] := by
  unfold reinstalled downloadUtility jdk
  rw [forcing_os, hos]
  cases ctx.config.environment <;> simp

end Plan

/-! ## §3. The two runs. -/

/-- A run that leaves alone what is there has less to do. -/
theorem lighter_unforced (ctx : Context) (known : String → Option Path) :
    Lighter ctx true known false known where
  needs _ _ := rfl
  index _ := rfl
  conda := rfl
  node _ := rfl
  compiler _ h := h

/-- **Installing again only adds work.**  Let one run install again what is there
and the other leave it alone, on hosts with the same tools that give the same
replies.  If the first succeeds, so does the second; the calls of the second are
among those of the first, in their order, up to the names of what is created.
What the first adds is the refreshed package index on Linux, before all steps,
and then the calls that install again the tools that are there. -/
theorem install_forced {σ τ : Type} (N : Renaming) (ctx : Context)
    (known : String → Option Path) (host : Host σ) (host' : Host τ) (s : σ) (t : τ)
    (hknown : ∀ tool s, (host (.locate tool) s).1 = known tool)
    (hknown' : ∀ tool t, (host' (.locate tool) t).1 = known tool)
    (hreplies : N.likeness.SameReplies
      ((Sequence.install (ctx.forcing true)).account host s)
      ((Sequence.install (ctx.forcing false)).account host' t))
    (hok : ((Sequence.install (ctx.forcing true)).perform host s).1 = .ok ()) :
    ((Sequence.install (ctx.forcing false)).perform host' t).1 = .ok () ∧
      ∃ script kept more,
        ((Sequence.install (ctx.forcing true)).account host s).runnerCalls
            = Plan.interpreter ctx ++ Plan.packageIndex (ctx.forcing true) ++ more
          ∧ List.Forall₂ N.likeness.Requests (Plan.interpreter ctx ++ kept)
              ((Sequence.install (ctx.forcing false)).account host' t).runnerCalls
          ∧ Interleaved (Plan.reinstalled ctx (Known known) script) kept more
          ∧ (Plan.interpreter ctx ++ kept).Sublist
              ((Sequence.install (ctx.forcing true)).account host s).runnerCalls
          ∧ (ctx.target.os = .linux → ctx.config.environment = .developer →
              ScriptIn ctx ((Sequence.install (ctx.forcing true)).account host s) script)
          ∧ (ctx.target.os = .windows → Plan.interpreter ctx ++ kept
              = ((Sequence.install (ctx.forcing true)).account host s).runnerCalls) := by
  have hE := probed_account hknown (Sequence.install (ctx.forcing true)) s
  have hF := probed_account hknown' (Sequence.install (ctx.forcing false)) t
  have hforced := leads_account host (Sequence.install (ctx.forcing true)) s
  have hunforced := leads_account host' (Sequence.install (ctx.forcing false)) t
  rw [hok] at hforced
  obtain ⟨hresult, script, dir, hcalls, halike, hcreated⟩ :=
    lighter_calls (lighter_unforced ctx known) hE hF hreplies hforced hunforced
  have hsteps : Interleaved (Plan.reinstalled ctx (Known known) script)
      (Plan.steps (ctx.forcing false) (Known known) script dir)
      (Plan.steps (ctx.forcing true) (Known known) script dir) := Plan.interleaved_steps script dir
  have hmore : ((Sequence.install (ctx.forcing true)).account host s).runnerCalls
      = Plan.interpreter ctx ++ Plan.packageIndex (ctx.forcing true)
        ++ Plan.steps (ctx.forcing true) (Known known) script dir :=
    hcalls.trans (Plan.calls_eq ..)
  -- The index is left alone where nothing is installed again.
  have hindex : Plan.packageIndex (ctx.forcing false) = [] := by
    unfold Plan.packageIndex
    change (if ctx.target.os == .linux && false then _ else _) = _
    rw [Bool.and_false]
    rfl
  rw [Plan.calls_eq, hindex, List.append_nil] at halike
  refine ⟨hresult, script, _, _, hmore, halike, hsteps, ?sublist, ?created, ?windows⟩
  case sublist =>
    rw [hmore]
    exact (List.sublist_append_left ..).append hsteps.sublist_right
  case created => exact fun hos henv => (hcreated hos henv).script rfl
  case windows =>
    intro hos
    rw [Plan.reinstalled_windows hos] at hsteps
    have hnone : Plan.packageIndex (ctx.forcing true) = [] := by
      unfold Plan.packageIndex
      rw [forcing_os, hos]
      rfl
    rw [hmore, hnone, List.append_nil, hsteps.eq_of_nil]

/-- On a host that has it all, the run that leaves it alone succeeds with the one
that installs it again. -/
theorem install_forced_equipped :
    ((Sequence.install (developerContext.forcing false)).perform (obliging equipped) ()).1 = .ok ()
      ∧ ∃ script kept more,
        ((Sequence.install (developerContext.forcing true)).account (obliging equipped)
            ()).runnerCalls
          = Plan.interpreter developerContext
            ++ Plan.packageIndex (developerContext.forcing true) ++ more
        ∧ Interleaved (Plan.reinstalled developerContext (Known equipped) script) kept more := by
  have hok : ((Sequence.install (developerContext.forcing true)).perform (obliging equipped) ()).1
      = .ok () := by decide +kernel
  obtain ⟨hresult, script, kept, more, hcalls, -, hadded, -⟩ := install_forced {} developerContext
    equipped (obliging equipped) (obliging equipped) () () (fun _ _ => rfl) (fun _ _ => rfl)
    Likeness.sameReplies_obliging hok
  exact ⟨hresult, script, kept, more, hcalls, hadded⟩

/-- What is added on a developer's host with all three tools. -/
example (script : Path) :
    Plan.reinstalled developerContext (Known equipped) script
      = [.run ⟨"sudo", ["apt-get", "install", "-y", "wget"], none⟩,
          .run ⟨"sudo", ["bash", script.text], none⟩,
          .run ⟨"sudo", ["apt-get", "install", "-y", "nodejs"], none⟩,
          .run ⟨"sudo", ["apt-get", "install", "-y", "openjdk-17-jdk"], none⟩] := by
  rfl

end Provision
