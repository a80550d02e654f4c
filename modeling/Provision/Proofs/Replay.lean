/-
  Provision.Proofs.Replay
  ───────────────────────
  **A FAILED RUN IS THE BEGINNING OF A SUCCESSFUL ONE.**

  The replies of a run are the answers to its commands and downloads.  The
  sparing host gives these replies again, each at its place, and from then on
  lets every command and every download succeed; in all other things it is
  another host.  A run that ends in a failure makes the calls that the run on
  the sparing host begins with, up to the names of what is created.

  Main results:

    `OneGround.sparing`      a host of one ground is that to its sparing twin
    `Procedures.replay`      replies given again lead along an alike account
    `install_failFast`       the first failure ends an installation, unchanged
-/
import Provision.Host.Recorder
import Provision.Proofs.AlikeSteps
import Provision.Proofs.FailFast
import Provision.Proofs.Renaming
import Provision.Run

namespace Provision

/-! ## §1. Replies. -/

/-- The answer to a command or to a download. -/
inductive CallReply where
  | run (x : Except Failure Unit)
  | capture (x : Except Failure Captured)
  | fetch (x : Except Failure ByteArray)

/-- The reply that an exchange holds, if it is a call. -/
def Exchange.reply? : Exchange → Option CallReply
  | ⟨.run _, x⟩ => some (.run x)
  | ⟨.capture _, x⟩ => some (.capture x)
  | ⟨.fetch _, x⟩ => some (.fetch x)
  | _ => none

/-- The replies of a run, in their order. -/
def Account.replies (E : Account) : List CallReply := E.filterMap Exchange.reply?

theorem Account.replies_cons (e : Exchange) (E : Account) :
    Account.replies (e :: E) = e.reply?.toList ++ Account.replies E := by
  unfold Account.replies
  rw [List.filterMap_cons]
  cases e.reply? <;> rfl

/-- What successful calls bring. -/
structure Successes where
  /-- What a captured command prints on its two streams. -/
  stdout : Command → String := fun _ => ""
  stderr : Command → String := fun _ => ""
  /-- What is found at an address. -/
  body : String → ByteArray := fun _ => ByteArray.empty

/-- The host that gives the replies, one for each call, and lets every call
after them succeed; other requests go to `other`. -/
def sparing {σ : Type} (later : Successes) (other : Host σ) : Host (List CallReply × σ)
  | .run _, (.run x :: rest, s) => (x, (rest, s))
  | .run _, (_, s) => (.ok (), ([], s))
  | .capture _, (.capture x :: rest, s) => (x, (rest, s))
  | .capture c, (_, s) => (.ok (.success (later.stdout c) (later.stderr c)), ([], s))
  | .fetch _, (.fetch x :: rest, s) => (x, (rest, s))
  | .fetch url, (_, s) => (.ok (later.body url), ([], s))
  | r, (replies, s) => ((other r s).1, (replies, (other r s).2))

/-! ## §2. Given again. -/

namespace Likeness

variable {L : Likeness} {σ α β : Type} {R : α → β → Prop}

/-- About the ground a sparing host answers as the other one does. -/
theorem sparing_ground {later : Successes} {other : Host σ} {r : Request}
    (h : r.toGround = true) (replies : List CallReply) (s : σ) :
    (sparing later other r (replies, s)).1 = (other r s).1 := by
  cases r <;> first | rfl | cases h

/-- **A host of one ground is that to its sparing twin.** -/
theorem OneGround.sparing {host : Host σ} (h : L.OneGround host host) (later : Successes) :
    L.OneGround host (sparing later host) := by
  intro r s u v hground hr
  rw [sparing_ground (hr.toGround_eq ▸ hground)]
  exact h r s u v.2 hground hr

/-- One request to a sparing host that still has the reply for it. -/
theorem sparing_answers {later : Successes} {other : Host σ} {e : Exchange} {r : Request}
    {rest : List CallReply} {s : σ} (hr : L.Requests e.request r)
    (hground : e.request.toGround = true →
      L.Answers e ⟨r, (sparing later other r (e.reply?.toList ++ rest, s)).1⟩) :
    ∃ t, (sparing later other r (e.reply?.toList ++ rest, s)).2 = (rest, t) ∧
      L.Answers e ⟨r, (sparing later other r (e.reply?.toList ++ rest, s)).1⟩ := by
  obtain ⟨q, x⟩ := e
  cases hr with
  | run h => exact ⟨s, rfl, outcomes_refl (fun _ => trivial) x⟩
  | capture c => exact ⟨s, rfl, rfl⟩
  | fetch url => exact ⟨s, rfl, outcomes_refl (fun _ => trivial) x⟩
  | locate tool => exact ⟨_, rfl, hground rfl⟩
  | createFile h before after content content' => exact ⟨_, rfl, hground rfl⟩
  | createDirectory h before => exact ⟨_, rfl, hground rfl⟩
  | discard h => exact ⟨_, rfl, trivial⟩
  | doesExist p => exact ⟨_, rfl, hground rfl⟩
  | read p => exact ⟨_, rfl, hground rfl⟩
  | tell h => exact ⟨_, rfl, trivial⟩
  | log y z => exact ⟨_, rfl, trivial⟩

/-- **Replies given again lead along an alike account**: after them the two
runs make alike requests. -/
theorem Procedures.replay {p : Procedure α} {q : Procedure β} {later : Successes}
    {other : Host σ} {before after : Account} {x : Exchange} {y : Except Failure α} {t : σ}
    (h : L.Procedures R p q) (hp : p.Leads (before ++ x :: after) y)
    (hground : L.SameGround before (q.account (sparing later other) (before.replies, t))) :
    ∃ before' x' after',
      q.account (sparing later other) (before.replies, t) = before' ++ x' :: after'
        ∧ List.Forall₂ L.Exchanges before before' ∧ L.Requests x.request x'.request := by
  -- Along what comes before: each exchange takes its own reply off the list.
  induction before generalizing p q t with
  | nil =>
      cases hp with
      | ask hk =>
          cases h with
          | ask hr _ => exact ⟨[], _, _, rfl, .nil, hr⟩
  | cons e before ih =>
      cases hp with
      | ask hk =>
          cases h with
          | ask hr hrest =>
              rename_i r _ a s l
              rw [Account.replies_cons] at hground ⊢
              obtain ⟨u, hu, hanswers⟩ := sparing_answers (e := ⟨r, a⟩) hr
                (fun hg => hground _ (List.mem_cons_self ..) _ (List.mem_cons_self ..) hg hr)
              simp only [Procedure.account] at hground ⊢
              rw [hu] at hground ⊢
              obtain ⟨before', x', after', heq, hbefore, hx⟩ := ih (hrest _ _ hanswers) hk
                (hground.mono (List.subset_cons_self ..) (List.subset_cons_self ..))
              rw [heq]
              exact ⟨_, x', after', rfl, .cons ⟨hr, hanswers⟩ hbefore, hx⟩

theorem Requests.toRunner_eq {r s : Request} (h : L.Requests r s) : r.toRunner = s.toRunner := by
  cases h <;> rfl

/-- Alike accounts hold alike requests of every kind that likeness respects. -/
theorem filter_alike {f : Request → Bool} (hf : ∀ {r s}, L.Requests r s → f r = f s)
    {E F : Account} (h : List.Forall₂ L.Exchanges E F) :
    List.Forall₂ L.Requests ((E.map Exchange.request).filter f)
      ((F.map Exchange.request).filter f) := by
  induction h with
  | nil => exact .nil
  | cons hef _ ih =>
      rw [List.map_cons, List.map_cons, List.filter_cons, List.filter_cons, hf hef.1]
      split
      · exact .cons hef.1 ih
      · exact ih

/-- Alike accounts hold alike calls to the runner. -/
theorem runnerCalls_alike {E F : Account} (h : List.Forall₂ L.Exchanges E F) :
    List.Forall₂ L.Requests E.runnerCalls F.runnerCalls := filter_alike Requests.toRunner_eq h

end Likeness

/-! ## §3. An installation. -/

/-- The calls of an account up to an exchange after which there are none. -/
theorem runnerCalls_upTo {before after : Account} {x : Exchange}
    (h : ∀ y ∈ after, y.request.isCall = false) :
    Account.runnerCalls (before ++ x :: after)
      = before.runnerCalls ++ if x.request.toRunner then [x.request] else [] := by
  have hafter : Account.runnerCalls after = [] := by
    apply Account.runnerCalls_eq_nil
    intro y hy
    have hcall := h y hy
    unfold Request.isCall at hcall
    split at hcall
    · cases hcall
    · exact hcall
  rw [Account.runnerCalls_append, Account.runnerCalls_cons, hafter]

/-- A failed installation begins as the one on a sparing host does. -/
theorem install_replay {σ τ : Type} {host : Host σ} {ctx : Context} {s : σ}
    {before after : Account} {x : Exchange}
    (h : (Sequence.install ctx).account host s = before ++ x :: after)
    (hafter : ∀ y ∈ after, y.request.isCall = false) (L : Likeness) (other : Host τ) (t : τ)
    (later : Successes)
    (hground : L.SameGround before
      ((Sequence.install ctx).account (sparing later other) (before.replies, t))) :
    ∃ calls,
      calls <+: ((Sequence.install ctx).account (sparing later other)
          (before.replies, t)).runnerCalls
        ∧ List.Forall₂ L.Requests ((Sequence.install ctx).account host s).runnerCalls calls := by
  have hleads := Procedure.leads_account host (Sequence.install ctx) s
  rw [h] at hleads
  obtain ⟨before', x', after', heq, hbefore, hx⟩ :=
    (Likeness.alike_install (Likeness.contexts_refl ctx)).replay hleads hground
  have hcalls := Likeness.runnerCalls_alike hbefore
  rw [h, heq, runnerCalls_upTo hafter, Account.runnerCalls_append, Account.runnerCalls_cons,
    ← hx.toRunner_eq]
  -- A failing command is a call to the runner itself, a failing download is not.
  cases x.request.toRunner with
  | true =>
      refine ⟨Account.runnerCalls before' ++ [x'.request],
        ⟨Account.runnerCalls after', ?_⟩, List.rel_append hcalls (.cons hx .nil)⟩
      rw [List.append_assoc]
      rfl
  | false =>
      refine ⟨Account.runnerCalls before', List.prefix_append .., ?_⟩
      show List.Forall₂ L.Requests (Account.runnerCalls before ++ []) _
      rw [List.append_nil]
      exact hcalls

/-- What a program answers is the exit code of its installation, which starts
when the line that opens the log has been written. -/
theorem program_result {σ : Type} (host : Host σ) (w : Surroundings)
    (a : CommandLine.Arguments) (s : σ) :
    ((Run.program w a).perform host s).1
      = .ok (exitCodeOf ((Run.install w a).perform host
          (host (.log ⟨.debug, .program, "servedeps starting with args: " ++ a.debugText⟩) s).2).1) := by
  show (((Run.install w a).attempt.bind fun result =>
    (Run.report result).bind fun _ => .done (exitCodeOf result)).perform host _).1 = _
  rw [Procedure.perform_bind, Procedure.perform_attempt]
  cases ((Run.install w a).perform host _).1 with
  | ok a => rfl
  | error f => rfl

/-- **The first failure ends an installation, unchanged.**  Where a command
that is run, or a download, fails, no call follows, and its failure is the
result.  A run that gets the same replies up to there and only successes from
there on, on whatever host, makes the same calls first, up to the names of
what is created.  The program writes one line to the log, installs, and leaves
with 0 exactly after a success, with a tool's own code between 1 and 255, and
with 1 after any other failure. -/
theorem install_failFast :
    (∀ (σ : Type) (host : Host σ) (ctx : Context) (s : σ) (before after : Account)
        (x : Exchange) (f : Failure),
      (Sequence.install ctx).account host s = before ++ x :: after → x.failure? = some f →
        (∀ y ∈ after, y.request.isCall = false)
          ∧ ((Sequence.install ctx).perform host s).1 = .error f
          ∧ ∀ (N : Renaming) (τ : Type) (other : Host τ) (t : τ) (later : Successes),
              N.likeness.SameGround before
                ((Sequence.install ctx).account (sparing later other) (before.replies, t)) →
              ∃ calls,
                calls <+: ((Sequence.install ctx).account (sparing later other)
                    (before.replies, t)).runnerCalls
                  ∧ List.Forall₂ N.likeness.Requests
                      ((Sequence.install ctx).account host s).runnerCalls calls)
      ∧ (∀ (σ : Type) (host : Host σ) (w : Surroundings) (a : CommandLine.Arguments) (s : σ),
          ((Run.program w a).perform host s).1
            = .ok (exitCodeOf ((Run.install w a).perform host
                (host (.log ⟨.debug, .program,
                  "servedeps starting with args: " ++ a.debugText⟩) s).2).1))
      ∧ (∀ r : Except Failure Unit, exitCodeOf r = 0 ↔ r = .ok ())
      ∧ (∀ (line : String) (n : Int), 1 ≤ n → n ≤ 255 →
          (exitCodeOf (.error (.commandFailed line (some n)) : Except Failure Unit) : Int) = n)
      ∧ ∀ f : Failure, (∀ line n, f = .commandFailed line (some n) → ¬ (1 ≤ n ∧ n ≤ 255)) →
          exitCodeOf (.error f : Except Failure Unit) = 1 := by
  refine ⟨?fails, ?program, ?zero, ?code, ?one⟩
  case fails =>
    intro σ host ctx s before after x f h hx
    have hleads := Procedure.leads_account host (Sequence.install ctx) s
    rw [h] at hleads
    obtain ⟨hresult, hafter⟩ := (failFast_install ctx).leads hleads hx
    refine ⟨hafter, hresult, ?_⟩
    intro N τ other t later hground
    exact install_replay h hafter N.likeness other t later hground
  case program => exact fun σ host w a s => program_result host w a s
  case zero =>
    intro r
    cases r with
    | ok u => exact ⟨fun _ => rfl, fun _ => rfl⟩
    | error f => exact ⟨fun h => absurd h f.exitCode_ne_zero, fun h => by cases h⟩
  case code =>
    intro line n h1 h255
    show ((Failure.commandFailed line (some n)).exitCode : Int) = n
    rw [Failure.exitCode_command ⟨h1, h255⟩]
    omega
  case one =>
    intro f hf
    show f.exitCode = 1
    unfold Failure.exitCode
    split
    · rw [if_neg (hf _ _ rfl)]
    · rfl

/-- A host whose package index cannot be refreshed. -/
def brokenIndex : Recorder :=
  (({} : Recorder).withOutput "python3" "Python 3.11.4").failOn "apt-get" 100

/-- A run that refreshes the package index first. -/
def refreshingContext : Context where
  target := ⟨.linux, none⟩
  config := { projectRoot := ⟨"/srv/app"⟩, force := true }
  settings := {}
  scratch := ⟨"/tmp/servedeps-x"⟩

/-- A recorder answers alike in all its states. -/
theorem oneGround_recorder (N : Renaming) : N.likeness.OneGround Recorder.host Recorder.host := by
  intro r s u v hground hr
  cases hr with
  | locate tool => rfl
  | createFile h before after content content' => exact .ok (Renaming.alike_join _ h)
  | createDirectory h before => exact .ok (Renaming.alike_join _ h)
  | doesExist p => rfl
  | read p => rfl
  | _ => cases hground

/-- On that host the run ends with the refusal of `apt-get`. -/
theorem install_failFast_brokenIndex :
    ((Sequence.install refreshingContext).perform Recorder.host brokenIndex).1
        = .error (.commandFailed "apt-get update" (some 100))
      ∧ exitCodeOf ((Sequence.install refreshingContext).perform Recorder.host brokenIndex).1 = 100
      ∧ ∃ calls,
          calls <+: ((Sequence.install refreshingContext).account
              (sparing {} Recorder.host)
              (Account.replies (((Sequence.install refreshingContext).account Recorder.host
                brokenIndex).take 4), brokenIndex)).runnerCalls
            ∧ List.Forall₂ (Renaming.likeness {}).Requests
                ((Sequence.install refreshingContext).account Recorder.host
                  brokenIndex).runnerCalls calls := by
  have hlast : (((Sequence.install refreshingContext).account Recorder.host
      brokenIndex).drop 4).map Exchange.failure?
        = [some (.commandFailed "apt-get update" (some 100))] := by decide +kernel
  obtain ⟨x, hdrop, hfailure⟩ := List.map_eq_singleton_iff.mp hlast
  have hsplit := (List.take_append_drop 4
    ((Sequence.install refreshingContext).account Recorder.host brokenIndex)).symm
  rw [hdrop] at hsplit
  obtain ⟨-, hresult, hreplay⟩ := install_failFast.1 Recorder Recorder.host refreshingContext
    brokenIndex _ [] x (.commandFailed "apt-get update" (some 100)) hsplit hfailure
  refine ⟨hresult, ?_, hreplay {} Recorder Recorder.host brokenIndex {} ?_⟩
  · rw [hresult]
    rfl
  · exact ((oneGround_recorder {}).sparing {}).sameGround
      (fun e he => Procedure.answer_account (List.mem_of_mem_take he))
      fun f hf => Procedure.answer_account hf

end Provision
