/-
  Provision.Proofs.Account
  ────────────────────────
  **THE ACCOUNT OF A RUN.**

  The account of a procedure on a host is the list of its requests with the
  answers they got, in their order.  An account says all that a procedure can
  know of its host: `Leads p E r` says that the exchanges `E` take `p` to the
  result `r`, without a word about any host.

  A layer over a host (`announcing`, `rehearsing`) answers some requests by
  others; what then reaches the host below is a function of the account above.

  Main results:

    `leads_account`      a host leads a procedure along its account
    `leads_bind`         the account of a sequence is cut at its seam
    `leads_withDirectory`    what is created goes again, whatever the body does
    `perform_through`    what reaches a host through a layer
-/
import Provision.Procedure

namespace Provision

/-! ## §1. Exchanges. -/

/-- A request with the answer that it got. -/
structure Exchange where
  request : Request
  answer : request.Answer

/-- The requests of a procedure with their answers, in their order. -/
abbrev Account := List Exchange

namespace Request

/-- Is it a call to the runner, which runs and captures commands? -/
def toRunner : Request → Bool
  | .run _ => true
  | .capture _ => true
  | _ => false

/-- Is it a call to the runner or a download? -/
def isCall : Request → Bool
  | .fetch _ => true
  | r => r.toRunner

end Request

/-- What is no call does not go to the runner. -/
theorem Request.toRunner_of_isCall {r : Request} (h : r.isCall = false) : r.toRunner = false := by
  cases r with
  | fetch url => rfl
  | _ => exact h

namespace Account

/-- The calls to the runner. -/
def runnerCalls (E : Account) : List Request :=
  (E.map Exchange.request).filter Request.toRunner

/-- The commands that were run. -/
def commands (E : Account) : List Command :=
  E.filterMap fun e => match e.request with
    | .run c => some c
    | _ => none

/-- What the user was told. -/
def notices (E : Account) : List Notice :=
  E.filterMap fun e => match e.request with
    | .tell n => some n
    | _ => none

/-- An exchange with the runner is a call, and any other is none. -/
theorem runnerCalls_cons (e : Exchange) (E : Account) :
    runnerCalls (e :: E)
      = if e.request.toRunner then e.request :: runnerCalls E else runnerCalls E := by
  simp only [runnerCalls, List.map_cons, List.filter_cons]

/-- The calls of two accounts, one after the other. -/
@[simp] theorem runnerCalls_append (E F : Account) :
    runnerCalls (E ++ F) = runnerCalls E ++ runnerCalls F := by
  simp only [runnerCalls, List.map_append, List.filter_append]

@[simp] theorem commands_append (E F : Account) : commands (E ++ F) = commands E ++ commands F := by
  simp only [commands, List.filterMap_append]

@[simp] theorem notices_append (E F : Account) : notices (E ++ F) = notices E ++ notices F := by
  simp only [notices, List.filterMap_append]

/-- An account without calls to the runner has none in its list of them. -/
theorem runnerCalls_eq_nil {E : Account} (h : ∀ e ∈ E, e.request.toRunner = false) :
    runnerCalls E = [] := by
  unfold runnerCalls
  rw [List.filter_eq_nil_iff]
  intro r hr
  rw [List.mem_map] at hr
  obtain ⟨e, he, rfl⟩ := hr
  rw [h e he]
  exact Bool.false_ne_true

/-- An account without calls has none to the runner. -/
theorem runnerCalls_of_quiet {E : Account} (h : ∀ e ∈ E, e.request.isCall = false) :
    runnerCalls E = [] := runnerCalls_eq_nil fun e he => Request.toRunner_of_isCall (h e he)

end Account

/-! ## §2. Where an account leads. -/

namespace Procedure

variable {σ α β : Type}

/-- The exchanges lead the procedure to the result. -/
inductive Leads : Procedure α → Account → Except Failure α → Prop
  | done (a : α) : Leads (.done a) [] (.ok a)
  | fail (e : Failure) : Leads (.fail e) [] (.error e)
  | ask {r : Request} {k : r.Answer → Procedure α} {x : r.Answer} {E : Account}
      {result : Except Failure α} (h : Leads (k x) E result) :
      Leads (.ask r k) (⟨r, x⟩ :: E) result

/-- The requests that a procedure makes of a host, with their answers. -/
def account (host : Host σ) : Procedure α → σ → Account
  | .done _, _ => []
  | .fail _, _ => []
  | .ask r k, s => ⟨r, (host r s).1⟩ :: (k (host r s).1).account host (host r s).2

/-- The requests of a procedure, each with the state of the host that it meets. -/
def moments (host : Host σ) : Procedure α → σ → List (Request × σ)
  | .done _, _ => []
  | .fail _, _ => []
  | .ask r k, s => (r, s) :: (k (host r s).1).moments host (host r s).2

/-- **A host leads a procedure along its account to its result.** -/
theorem leads_account (host : Host σ) (p : Procedure α) (s : σ) :
    p.Leads (p.account host s) (p.perform host s).1 := by
  induction p generalizing s with
  | done a => exact .done a
  | fail e => exact .fail e
  | ask r k ih => exact .ask (ih _ _)

/-- Every answer in an account is the host's own. -/
theorem answer_account {host : Host σ} {p : Procedure α} {s : σ} {e : Exchange}
    (h : e ∈ p.account host s) : ∃ t, e.answer = (host e.request t).1 := by
  induction p generalizing s with
  | done a => cases h
  | fail f => cases h
  | ask r k ih =>
      rcases List.mem_cons.mp h with rfl | h
      · exact ⟨s, rfl⟩
      · exact ih _ h

/-- The first answer is the one that the host gives in its first state. -/
theorem head_account {host : Host σ} {p : Procedure α} {s : σ} {q : Request} {x : q.Answer}
    (h : (p.account host s).head? = some ⟨q, x⟩) : x = (host q s).1 := by
  cases p with
  | done a => cases h
  | fail e => cases h
  | ask r k =>
      cases h
      rfl

/-- What is done leads nowhere but to its result. -/
theorem leads_done {a : α} {E : Account} {r : Except Failure α} :
    (Procedure.done a).Leads E r ↔ E = [] ∧ r = .ok a := by
  constructor
  · intro h
    cases h
    exact ⟨rfl, rfl⟩
  · rintro ⟨rfl, rfl⟩
    exact .done a

/-- A failure leads nowhere but to itself. -/
theorem leads_fail {e : Failure} {E : Account} {r : Except Failure α} :
    (Procedure.fail e).Leads E r ↔ E = [] ∧ r = .error e := by
  constructor
  · intro h
    cases h
    exact ⟨rfl, rfl⟩
  · rintro ⟨rfl, rfl⟩
    exact .fail e

/-- **An account begins with the first request**, and its answer decides what
comes next. -/
theorem leads_ask {q : Request} {k : q.Answer → Procedure α} {E : Account}
    {r : Except Failure α} :
    (Procedure.ask q k).Leads E r ↔ ∃ x F, E = ⟨q, x⟩ :: F ∧ (k x).Leads F r := by
  constructor
  · intro h
    cases h with
    | ask h => exact ⟨_, _, rfl, h⟩
  · rintro ⟨x, F, rfl, h⟩
    exact .ask h

/-- One request, whatever its answer. -/
theorem leads_ask_done {q : Request} {a b : α} {E : Account}
    (h : (Procedure.ask q fun _ => .done a).Leads E (.ok b)) : ∃ x, E = [⟨q, x⟩] ∧ b = a := by
  obtain ⟨x, F, rfl, hk⟩ := leads_ask.mp h
  obtain ⟨rfl, hb⟩ := leads_done.mp hk
  injection hb with hb
  exact ⟨x, rfl, hb⟩

/-- An outcome that is known leads to itself. -/
theorem leads_ofExcept {x : Except Failure α} {E : Account} {r : Except Failure α} :
    (ofExcept x).Leads E r ↔ E = [] ∧ r = x := by
  cases x with
  | ok a => exact leads_done
  | error e => exact leads_fail

theorem perform_ofExcept (host : Host σ) (x : Except Failure α) (s : σ) :
    (ofExcept x).perform host s = (x, s) := by
  cases x <;> rfl

/-! ## §3. Sequences and clean-up. -/

/-- The notation for sequences, in the form that the lemmas are about. -/
@[simp] theorem bind_eq (p : Procedure α) (f : α → Procedure β) : (p >>= f) = p.bind f := rfl

/-- **The account of a sequence is cut at its seam**: either the first part
fails, or the second one goes on where the first has ended. -/
theorem leads_bind {p : Procedure α} {f : α → Procedure β} {E : Account}
    {r : Except Failure β} :
    (p.bind f).Leads E r ↔
      (∃ e, p.Leads E (.error e) ∧ r = .error e)
        ∨ ∃ a E₁ E₂, E = E₁ ++ E₂ ∧ p.Leads E₁ (.ok a) ∧ (f a).Leads E₂ r := by
  -- A request of the sequence is one of its first part, until that has ended.
  induction p generalizing E with
  | done a =>
      constructor
      · intro h
        exact .inr ⟨a, [], E, rfl, .done a, h⟩
      · rintro (⟨e, h, -⟩ | ⟨b, E₁, E₂, rfl, h, hf⟩)
        · cases h
        · cases h
          exact hf
  | fail e =>
      constructor
      · intro h
        obtain ⟨rfl, rfl⟩ := leads_fail.mp h
        exact .inl ⟨e, .fail e, rfl⟩
      · rintro (⟨e', h, rfl⟩ | ⟨b, E₁, E₂, rfl, h, hf⟩)
        · cases h
          exact .fail _
        · cases h
  | ask q k ih =>
      constructor
      · intro h
        obtain ⟨x, F, rfl, hk⟩ := leads_ask.mp h
        rcases (ih x).mp hk with ⟨e, he, rfl⟩ | ⟨a, E₁, E₂, rfl, h₁, h₂⟩
        · exact .inl ⟨e, .ask he, rfl⟩
        · exact .inr ⟨a, ⟨q, x⟩ :: E₁, E₂, rfl, .ask h₁, h₂⟩
      · rintro (⟨e, h, rfl⟩ | ⟨a, E₁, E₂, rfl, h₁, h₂⟩)
        · obtain ⟨x, F, rfl, hk⟩ := leads_ask.mp h
          exact .ask ((ih x).mpr (.inl ⟨e, hk, rfl⟩))
        · obtain ⟨x, F, rfl, hk⟩ := leads_ask.mp h₁
          exact .ask ((ih x).mpr (.inr ⟨a, F, E₂, rfl, hk, h₂⟩))

/-- The account of a sequence is that of its first part, and behind a success
that of the second. -/
theorem account_bind (host : Host σ) (p : Procedure α) (f : α → Procedure β) (s : σ) :
    (p.bind f).account host s
      = p.account host s ++ match p.perform host s with
        | (.ok a, t) => (f a).account host t
        | (.error _, _) => [] := by
  induction p generalizing s with
  | done a => rfl
  | fail e => rfl
  | ask r k ih =>
      show _ :: ((k (host r s).1).bind f).account host (host r s).2 = _
      rw [ih]
      rfl

/-- A result of a sequence is reached through a result of its first part. -/
theorem leads_bind_ok {p : Procedure α} {f : α → Procedure β} {E : Account} {b : β}
    (h : (p.bind f).Leads E (.ok b)) :
    ∃ a E₁ E₂, E = E₁ ++ E₂ ∧ p.Leads E₁ (.ok a) ∧ (f a).Leads E₂ (.ok b) := by
  rcases leads_bind.mp h with ⟨e, -, he⟩ | h
  · cases he
  · exact h

/-- An attempt has the account of what it attempts, and always a result. -/
theorem leads_attempt {p : Procedure α} {E : Account} {r : Except Failure (Except Failure α)} :
    p.attempt.Leads E r ↔ ∃ x, r = .ok x ∧ p.Leads E x := by
  induction p generalizing E with
  | done a =>
      constructor
      · intro h
        obtain ⟨rfl, rfl⟩ := leads_done.mp h
        exact ⟨_, rfl, .done a⟩
      · rintro ⟨x, rfl, h⟩
        obtain ⟨rfl, rfl⟩ := leads_done.mp h
        exact .done _
  | fail e =>
      constructor
      · intro h
        obtain ⟨rfl, rfl⟩ := leads_done.mp h
        exact ⟨_, rfl, .fail e⟩
      · rintro ⟨x, rfl, h⟩
        obtain ⟨rfl, rfl⟩ := leads_fail.mp h
        exact .done _
  | ask q k ih =>
      constructor
      · intro h
        obtain ⟨y, F, rfl, hk⟩ := leads_ask.mp h
        obtain ⟨x, rfl, hx⟩ := (ih y).mp hk
        exact ⟨x, rfl, .ask hx⟩
      · rintro ⟨x, rfl, h⟩
        obtain ⟨y, F, rfl, hk⟩ := leads_ask.mp h
        exact .ask ((ih y).mpr ⟨x, rfl, hk⟩)

/-- What is created for a body is discarded after it, and the result is the
body's own. -/
theorem leads_withCleanUp {p : Procedure α} {path : Path} {E : Account}
    {r : Except Failure α} :
    (p.withCleanUp (discard path)).Leads E r ↔
      ∃ F, E = F ++ [⟨.discard path, ()⟩] ∧ p.Leads F r := by
  -- The clean-up waits at both kinds of leaves, behind a result and a failure.
  induction p generalizing E with
  | done a =>
      show ((discard path).bind fun _ => .done a).Leads E r ↔ _
      constructor
      · intro h
        obtain ⟨x, F, rfl, hk⟩ := leads_ask.mp h
        obtain ⟨rfl, rfl⟩ := leads_done.mp hk
        exact ⟨[], rfl, .done a⟩
      · rintro ⟨F, rfl, h⟩
        obtain ⟨rfl, rfl⟩ := leads_done.mp h
        exact .ask (.done a)
  | fail e =>
      show ((discard path).bind fun _ => .fail e).Leads E r ↔ _
      constructor
      · intro h
        obtain ⟨x, F, rfl, hk⟩ := leads_ask.mp h
        obtain ⟨rfl, rfl⟩ := leads_fail.mp hk
        exact ⟨[], rfl, .fail e⟩
      · rintro ⟨F, rfl, h⟩
        obtain ⟨rfl, rfl⟩ := leads_fail.mp h
        exact .ask (.fail e)
  | ask q k ih =>
      constructor
      · intro h
        obtain ⟨x, F, rfl, hk⟩ := leads_ask.mp h
        obtain ⟨G, rfl, hG⟩ := (ih x).mp hk
        exact ⟨⟨q, x⟩ :: G, rfl, .ask hG⟩
      · rintro ⟨F, rfl, h⟩
        obtain ⟨x, G, rfl, hk⟩ := leads_ask.mp h
        exact .ask ((ih x).mpr ⟨G, rfl, hk⟩)

/-- **A temporary directory is made, used and removed**, or it could not be
made. -/
theorem leads_withDirectory {parent : Path} {before : String} {body : Path → Procedure α}
    {E : Account} {r : Except Failure α} :
    (withDirectory parent before body).Leads E r ↔
      (∃ e, E = [⟨.createDirectory parent before, .error e⟩] ∧ r = .error e)
        ∨ ∃ path F, E = ⟨.createDirectory parent before, .ok path⟩ :: (F ++ [⟨.discard path, ()⟩])
            ∧ (body path).Leads F r := by
  unfold withDirectory
  rw [leads_ask]
  constructor
  · rintro ⟨x, F, rfl, h⟩
    cases x with
    | error e =>
        obtain ⟨rfl, rfl⟩ := leads_fail.mp h
        exact .inl ⟨e, rfl, rfl⟩
    | ok path =>
        obtain ⟨G, rfl, hG⟩ := leads_withCleanUp.mp h
        exact .inr ⟨path, G, rfl, hG⟩
  · rintro (⟨e, rfl, rfl⟩ | ⟨path, F, rfl, h⟩)
    · exact ⟨_, _, rfl, .fail e⟩
    · exact ⟨_, _, rfl, leads_withCleanUp.mpr ⟨F, rfl, h⟩⟩

/-- The same for a temporary file with its content. -/
theorem leads_withFile {parent : Path} {before after : String} {content : ByteArray}
    {body : Path → Procedure α} {E : Account} {r : Except Failure α} :
    (withFile parent before after content body).Leads E r ↔
      (∃ e, E = [⟨.createFile parent before after content, .error e⟩] ∧ r = .error e)
        ∨ ∃ path F,
            E = ⟨.createFile parent before after content, .ok path⟩
                :: (F ++ [⟨.discard path, ()⟩])
              ∧ (body path).Leads F r := by
  unfold withFile
  rw [leads_ask]
  constructor
  · rintro ⟨x, F, rfl, h⟩
    cases x with
    | error e =>
        obtain ⟨rfl, rfl⟩ := leads_fail.mp h
        exact .inl ⟨e, rfl, rfl⟩
    | ok path =>
        obtain ⟨G, rfl, hG⟩ := leads_withCleanUp.mp h
        exact .inr ⟨path, G, rfl, hG⟩
  · rintro (⟨e, rfl, rfl⟩ | ⟨path, F, rfl, h⟩)
    · exact ⟨_, _, rfl, .fail e⟩
    · exact ⟨_, _, rfl, leads_withCleanUp.mpr ⟨F, rfl, h⟩⟩

end Procedure

/-! ## §4. Observed hosts and layers. -/

section Layers

variable {σ α : Type}

/-- The host that notes every exchange in its state. -/
def observed (host : Host σ) : Host (σ × Account) := fun r s =>
  ((host r s.1).1, ((host r s.1).2, s.2 ++ [⟨r, (host r s.1).1⟩]))

/-- **What reaches a host through a layer** above it, if every exchange with
the layer is the account `below` there. -/
theorem Procedure.perform_through {low : Host (σ × Account)} (high : Host σ)
    (below : Exchange → Account)
    (h : ∀ r s E, low r (s, E)
      = ((high r s).1, ((high r s).2, E ++ below ⟨r, (high r s).1⟩)))
    (p : Procedure α) (s : σ) (E : Account) :
    p.perform low (s, E)
      = ((p.perform high s).1, ((p.perform high s).2, E ++ (p.account high s).flatMap below)) := by
  induction p generalizing s E with
  | done a => simp only [perform, account, List.flatMap_nil, List.append_nil]
  | fail e => simp only [perform, account, List.flatMap_nil, List.append_nil]
  | ask r k ih => simp only [perform, account, h, ih, List.flatMap_cons, List.append_assoc]

/-- What an exchange with an announcing host is below it. -/
def Exchange.announced : Exchange → Account
  | ⟨.run c, x⟩ => [⟨.tell (.command c.line), ()⟩, ⟨.run c, x⟩]
  | e => [e]

/-- What an exchange with a rehearsing host is below it. -/
def Exchange.rehearsed : Exchange → Account
  | ⟨.run c, _⟩ => [⟨.tell (.planned c.line), ()⟩]
  | ⟨.fetch url, _⟩ => [⟨.log ⟨.info, .download, "Would download " ++ url⟩, ()⟩]
  | e => [e]

/-- One request to an announcing host that is observed below. -/
theorem announcing_observed (host : Host σ) (r : Request) (s : σ) (E : Account) :
    announcing (observed host) r (s, E)
      = ((announcing host r s).1,
          ((announcing host r s).2, E ++ Exchange.announced ⟨r, (announcing host r s).1⟩)) := by
  cases r with
  | run c =>
      simp only [announcing, observed, Exchange.announced, List.append_assoc,
        List.singleton_append]
  | _ => rfl

/-- One request to a rehearsing host that is observed below. -/
theorem rehearsing_observed (host : Host σ) (r : Request) (s : σ) (E : Account) :
    rehearsing (observed host) r (s, E)
      = ((rehearsing host r s).1,
          ((rehearsing host r s).2, E ++ Exchange.rehearsed ⟨r, (rehearsing host r s).1⟩)) := by
  cases r <;> rfl

end Layers

end Provision
