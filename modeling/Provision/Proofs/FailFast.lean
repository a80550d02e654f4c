/-
  Provision.Proofs.FailFast
  ─────────────────────────
  **THE FIRST FAILURE ENDS A RUN.**

  A procedure is fail-fast when, wherever a command that is run or a download
  fails, whatever follows makes no call any more and ends in that very
  failure.  This is a property of the tree alone, so that it holds on every
  host.  It is kept by sequences and by clean-up, and every step of an
  installation has it.

  Main results:

    `FailFast.leads`     after a failing call there is no other, and the result
                         is its failure
    `FailFast.bind`, `FailFast.withFile`, `FailFast.withDirectory`
                         how fail-fast parts are put together
    `failFast_install`   an installation is fail-fast
-/
import Provision.Proofs.Composed

namespace Provision

/-! ## §1. Failing calls. -/

/-- The failure that an exchange reports: that of a command that was run, or
that of a download. -/
def Exchange.failure? : Exchange → Option Failure
  | ⟨.run _, .error e⟩ => some e
  | ⟨.fetch _, .error e⟩ => some e
  | _ => none

namespace Procedure

variable {α β : Type}

/-- Whatever is answered, no call is made and the end is the failure `e`. -/
def EndsIn (e : Failure) : Procedure α → Prop
  | .done _ => False
  | .fail f => f = e
  | .ask r k => r.isCall = false ∧ ∀ x, (k x).EndsIn e

/-- Wherever a call fails, the rest ends in its failure without another call. -/
def FailFast : Procedure α → Prop
  | .done _ => True
  | .fail _ => True
  | .ask r k => ∀ x : r.Answer,
      (k x).FailFast ∧ ∀ e, Exchange.failure? ⟨r, x⟩ = some e → (k x).EndsIn e

/-- What is bound to end in a failure ends in it on every host, and makes no
call on the way. -/
theorem EndsIn.leads {e : Failure} {p : Procedure α} {E : Account} {r : Except Failure α}
    (hp : p.EndsIn e) (h : p.Leads E r) :
    r = .error e ∧ ∀ x ∈ E, x.request.isCall = false := by
  -- On the way through the tree, of which only the end can be the failure.
  induction h with
  | done a => exact absurd hp (fun h => h)
  | fail f =>
      have hf : f = e := hp
      subst hf
      exact ⟨rfl, fun x hx => absurd hx List.not_mem_nil⟩
  | ask h ih =>
      obtain ⟨hcall, hrest⟩ := hp
      obtain ⟨hr, hE⟩ := ih (hrest _)
      refine ⟨hr, ?_⟩
      intro x hx
      rcases List.mem_cons.mp hx with rfl | hx
      · exact hcall
      · exact hE x hx

/-- **After a failing call there is no other, and the result is its failure.** -/
theorem FailFast.leads {p : Procedure α} {before after : Account} {x : Exchange} {e : Failure}
    {r : Except Failure α} (hp : p.FailFast) (h : p.Leads (before ++ x :: after) r)
    (hx : x.failure? = some e) :
    r = .error e ∧ ∀ y ∈ after, y.request.isCall = false := by
  -- What comes before leads to a part that is fail-fast as well.
  induction before generalizing p with
  | nil =>
      cases h with
      | ask h => exact ((hp _).2 e hx).leads h
  | cons y before ih =>
      cases h with
      | ask h => exact ih (hp _).1 h

/-! ## §2. Putting parts together. -/

/-- A failure skips what would have followed. -/
theorem EndsIn.bind {e : Failure} {p : Procedure α} (hp : p.EndsIn e)
    (f : α → Procedure β) : (p.bind f).EndsIn e := by
  induction p with
  | done a => exact absurd hp (fun h => h)
  | fail e' => exact hp
  | ask r k ih => exact ⟨hp.1, fun x => ih x (hp.2 x)⟩

/-- **A sequence of fail-fast parts is fail-fast.** -/
theorem FailFast.bind {p : Procedure α} {f : α → Procedure β} (hp : p.FailFast)
    (hf : ∀ a, (f a).FailFast) : (p.bind f).FailFast := by
  induction p with
  | done a => exact hf a
  | fail e => trivial
  | ask r k ih =>
      intro x
      -- Where the first part ends in a failure, the second one is never reached.
      obtain ⟨hk, hend⟩ := hp x
      exact ⟨ih x hk, fun e he => (hend e he).bind f⟩

/-- Clean-up follows a failure and passes it on. -/
theorem EndsIn.withCleanUp {e : Failure} {p : Procedure α} (hp : p.EndsIn e) (path : Path) :
    (p.withCleanUp (discard path)).EndsIn e := by
  induction p with
  | done a => exact absurd hp (fun h => h)
  | fail e' => exact ⟨rfl, fun _ => hp⟩
  | ask r k ih => exact ⟨hp.1, fun x => ih x (hp.2 x)⟩

/-- **So a body with its clean-up is fail-fast**, although something is still
done after the failure. -/
theorem FailFast.withCleanUp {p : Procedure α} (hp : p.FailFast) (path : Path) :
    (p.withCleanUp (discard path)).FailFast := by
  induction p with
  | done a => exact fun _ => ⟨trivial, fun e he => by cases he⟩
  | fail e' => exact fun _ => ⟨trivial, fun e he => by cases he⟩
  | ask r k ih =>
      intro x
      -- To discard something is no call, so that the clean-up may follow a failure.
      obtain ⟨hk, hend⟩ := hp x
      exact ⟨ih x hk, fun e he => (hend e he).withCleanUp path⟩

theorem failFast_ofExcept (x : Except Failure α) : (ofExcept x).FailFast := by
  cases x <;> trivial

/-- A request that is neither run nor download never reports a failure. -/
theorem failFast_ask {r : Request} {k : r.Answer → Procedure α}
    (hr : ∀ x, Exchange.failure? ⟨r, x⟩ = none) (hk : ∀ x, (k x).FailFast) :
    (Procedure.ask r k).FailFast := by
  intro x
  refine ⟨hk x, ?_⟩
  intro e he
  rw [hr x] at he
  cases he

/-- A command that fails is the end. -/
theorem failFast_run (c : Command) : (run c).FailFast := by
  intro x
  cases x with
  | ok a => exact ⟨trivial, fun e he => by cases he⟩
  | error e => exact ⟨trivial, fun e' he => by injection he⟩

/-- Notices never fail. -/
theorem failFast_tell (n : Notice) : (tell n).FailFast :=
  failFast_ask (fun _ => rfl) fun _ => trivial

/-- A captured command reports its failure as an answer, with which the step
goes on. -/
theorem failFast_capture (c : Command) : (capture c).FailFast :=
  failFast_ask (fun _ => rfl) fun _ => trivial

theorem FailFast.withFile {body : Path → Procedure α} (hb : ∀ path, (body path).FailFast)
    (parent : Path) (before after : String) (content : ByteArray) :
    (withFile parent before after content body).FailFast :=
  failFast_ask (fun _ => rfl) fun r =>
    (failFast_ofExcept r).bind fun path => (hb path).withCleanUp path

/-- A body in a temporary directory; one that could not be made is a failure of
no call. -/
theorem FailFast.withDirectory {body : Path → Procedure α}
    (hb : ∀ path, (body path).FailFast) (parent : Path) (before : String) :
    (withDirectory parent before body).FailFast :=
  failFast_ask (fun _ => rfl) fun r =>
    (failFast_ofExcept r).bind fun path => (hb path).withCleanUp path

end Procedure

open Procedure

/-! ## §3. The parts of a run. -/

/-- A failed download is reported to the user before it ends the run, and a
notice is no call. -/
theorem failFast_download (url : String) : (NodeJs.download url).FailFast := by
  refine (failFast_tell _).bind fun _ => ?_
  intro x
  cases x with
  | ok body =>
      exact ⟨(failFast_tell _).bind fun _ => trivial, fun e he => by cases he⟩
  | error e =>
      refine ⟨(failFast_tell _).bind fun _ => trivial, ?_⟩
      intro e' he
      injection he with he
      -- The notice between the failed download and the end is no call.
      exact ⟨rfl, fun _ => he⟩

/-- **Whatever is put together from the parts of a run is fail-fast.** -/
theorem Procedure.Composed.failFast {P : Command → Prop} {α : Type} {p : Procedure α}
    (h : p.Composed P fun _ => True) : p.FailFast := by
  -- On how the procedure is put together: one lemma for each part.
  induction h with
  | done a => trivial
  | fail e => trivial
  | @passive _ r k hr _ _ ih =>
      have hnone : ∀ x, Exchange.failure? ⟨r, x⟩ = none := by
        intro x
        cases r <;> first | rfl | cases hr
      exact failFast_ask hnone ih
  | run c => exact failFast_run c
  | capture _ => exact failFast_capture _
  | download url => exact failFast_download url
  | bind _ _ ih ih' => exact ih.bind ih'
  | withFile _ ih => exact .withFile ih _ _ _ _
  | withDirectory _ ih => exact .withDirectory ih _ _

/-- **An installation is fail-fast.** -/
theorem failFast_install (ctx : Context) : (Sequence.install ctx).FailFast :=
  (composed_install (P := fun _ => True) ctx (fun _ => trivial) fun _ => trivial).failFast

end Provision
