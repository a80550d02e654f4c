/-
  Provision.Proofs.Tidy
  ─────────────────────
  **PROCEDURES THAT CLEAN UP AFTER THEMSELVES.**

  A procedure is tidy when it creates files and directories only around a body
  that they are removed after, and when it removes nothing else.  Which tools
  it may ask for their output is a parameter.  Every step of an installation
  is tidy, and a dry run asks no tool but Homebrew.

  Main results:

    `Tidy.captured`      a tidy procedure asks only the tools that it may ask
    `Composed.tidy`      whatever is put together from the parts of a run is tidy
    `tidy_install`       a dry run is, and asks Homebrew on macOS only
-/
import Provision.Proofs.Composed

namespace Provision

/-! ## §1. Tidy procedures. -/

/-- Does the request neither ask a tool nor create or remove anything? -/
def Request.isPlain : Request → Bool
  | .capture _ => false
  | .createFile .. => false
  | .createDirectory .. => false
  | .discard _ => false
  | _ => true

namespace Procedure

/-- What is created is removed again, and nothing else is; only commands with
`P` are captured. -/
inductive Tidy (P : Command → Prop) : {α : Type} → Procedure α → Prop
  | done {α : Type} (a : α) : Tidy P (.done a)
  | fail {α : Type} (e : Failure) : Tidy P (.fail e : Procedure α)
  | plain {α : Type} {r : Request} {k : r.Answer → Procedure α} (hr : r.isPlain = true)
      (hk : ∀ x, Tidy P (k x)) : Tidy P (.ask r k)
  | capture {α : Type} {c : Command} {k : Except Failure Captured → Procedure α} (hc : P c)
      (hk : ∀ x, Tidy P (k x)) : Tidy P (.ask (.capture c) k)
  | bind {α β : Type} {p : Procedure α} {f : α → Procedure β} (hp : Tidy P p)
      (hf : ∀ a, Tidy P (f a)) : Tidy P (p.bind f)
  | attempt {α : Type} {p : Procedure α} (hp : Tidy P p) : Tidy P p.attempt
  | withFile {α : Type} {parent : Path} {before after : String} {content : ByteArray}
      {body : Path → Procedure α} (hb : ∀ path, Tidy P (body path)) :
      Tidy P (withFile parent before after content body)
  | withDirectory {α : Type} {parent : Path} {before : String} {body : Path → Procedure α}
      (hb : ∀ path, Tidy P (body path)) : Tidy P (withDirectory parent before body)

variable {α β : Type} {P : Command → Prop}

/-- What is captured while something exists is captured by the body. -/
theorem mem_of_mem_around {e : Exchange} {path : Path} {F : Account} {c : Command}
    {x : Except Failure Captured} (he : ⟨.capture c, x⟩ ≠ e)
    (h : ⟨.capture c, x⟩ ∈ e :: (F ++ [⟨.discard path, ()⟩])) : ⟨.capture c, x⟩ ∈ F := by
  rcases List.mem_cons.mp h with heq | h
  · exact absurd heq he
  · rcases List.mem_append.mp h with h | h
    · exact h
    · cases List.mem_singleton.mp h

/-- **A tidy procedure asks only the tools that it may ask.** -/
theorem Tidy.captured {p : Procedure α} {E : Account} {r : Except Failure α} (h : p.Tidy P)
    (hleads : p.Leads E r) {c : Command} {x : Except Failure Captured}
    (hmem : ⟨.capture c, x⟩ ∈ E) : P c := by
  induction h generalizing E with
  | done a =>
      obtain ⟨rfl, -⟩ := leads_done.mp hleads
      cases hmem
  | fail e =>
      obtain ⟨rfl, -⟩ := leads_fail.mp hleads
      cases hmem
  | plain hr _ ih =>
      obtain ⟨y, F, rfl, hk⟩ := leads_ask.mp hleads
      rcases List.mem_cons.mp hmem with heq | hmem
      · injection heq with hrequest
        subst hrequest
        cases hr
      · exact ih y hk hmem
  -- The one place where something is captured, with the right to it.
  | capture hc _ ih =>
      obtain ⟨y, F, rfl, hk⟩ := leads_ask.mp hleads
      rcases List.mem_cons.mp hmem with heq | hmem
      · injection heq with hrequest
        injection hrequest with hrequest
        subst hrequest
        exact hc
      · exact ih y hk hmem
  | bind _ _ ih ih' =>
      rcases leads_bind.mp hleads with ⟨e, he, -⟩ | ⟨a, E₁, E₂, rfl, h₁, h₂⟩
      · exact ih he hmem
      · rcases List.mem_append.mp hmem with hmem | hmem
        · exact ih h₁ hmem
        · exact ih' a h₂ hmem
  | attempt _ ih =>
      obtain ⟨y, -, hy⟩ := leads_attempt.mp hleads
      exact ih hy hmem
  | withFile _ ih =>
      rcases leads_withFile.mp hleads with ⟨e, rfl, -⟩ | ⟨path, F, rfl, hF⟩
      · cases List.mem_singleton.mp hmem
      · exact ih path hF (mem_of_mem_around (by intro heq; cases heq) hmem)
  | withDirectory _ ih =>
      rcases leads_withDirectory.mp hleads with ⟨e, rfl, -⟩ | ⟨path, F, rfl, hF⟩
      · cases List.mem_singleton.mp hmem
      · exact ih path hF (mem_of_mem_around (by intro heq; cases heq) hmem)

/-- What asks for nothing leaves nothing behind. -/
theorem tidy_ofExcept (x : Except Failure α) : (ofExcept x).Tidy P := by
  cases x with
  | ok a => exact .done a
  | error e => exact .fail e

/-- A command may do what it likes; the procedure itself creates nothing. -/
theorem tidy_run (c : Command) : (run c).Tidy P := .plain rfl tidy_ofExcept

theorem tidy_fetch (url : String) : (fetch url).Tidy P := .plain rfl .done

theorem tidy_tell (n : Notice) : (tell n).Tidy P := .plain rfl .done

end Procedure

open Procedure

/-! ## §2. The parts of a run. -/

/-- A download holds its bytes and writes no file. -/
theorem tidy_download {P : Command → Prop} (url : String) : (NodeJs.download url).Tidy P := by
  refine (tidy_tell _).bind fun _ => (tidy_fetch url).bind fun x => ?_
  cases x with
  | ok body => exact (tidy_tell _).bind fun _ => .done _
  | error e => exact (tidy_tell _).bind fun _ => .fail e

/-- **Whatever is put together from the parts of a run is tidy.** -/
theorem Procedure.Composed.tidy {P : Command → Prop} {α : Type} {p : Procedure α}
    (h : p.Composed P fun _ => True) : p.Tidy P := by
  induction h with
  | done a => exact .done a
  | fail e => exact .fail e
  | @passive _ r k hr _ _ ih =>
      have hplain : r.isPlain = true := by
        cases r <;> first | rfl | cases hr
      exact .plain hplain ih
  | run c => exact tidy_run c
  | capture hc => exact .capture hc .done
  | download url => exact tidy_download url
  | bind _ _ ih ih' => exact ih.bind ih'
  | withFile _ ih => exact .withFile ih
  | withDirectory _ ih => exact .withDirectory ih

/-- **A dry run is tidy**, and asks Homebrew on macOS only. -/
theorem tidy_install {P : Command → Prop} (w : Surroundings) {a : CommandLine.Arguments}
    (hdry : a.dryRun = true) (h : a.targetOs w.os = .macOS → P (ToolVersion.question "brew")) :
    (Run.install w a).Tidy P :=
  (composed_run w a (fun hreal => by rw [hdry] at hreal; cases hreal) h fun _ => trivial).tidy

/-- **The whole program is tidy in a dry run**, with the report of a failure at
its end. -/
theorem tidy_program {P : Command → Prop} (w : Surroundings) {a : CommandLine.Arguments}
    (hdry : a.dryRun = true) (h : a.targetOs w.os = .macOS → P (ToolVersion.question "brew")) :
    (Run.program w a).Tidy P := by
  refine (composed_log _ _ _).tidy.bind fun _ =>
    (tidy_install w hdry h).attempt.bind fun result => ?_
  have hreport : (Run.report result).Tidy P := by
    cases result with
    | ok u => exact .done ()
    | error f => exact tidy_tell _
  exact hreport.bind fun _ => .done _

end Provision
