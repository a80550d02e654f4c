/-
  Provision.Proofs.Likeness
  ─────────────────────────
  **TWO RUNS IN STEP WITH EACH OTHER.**

  A likeness says which texts, commands, failures and notices are taken for
  the same when two runs are compared.  Two procedures are alike when they
  make alike requests as long as they get alike answers.  That is a property
  of the two trees; what two hosts make of it follows by one induction along
  their accounts.

  Main results:

    `Procedures.bind`, `Procedures.withFile`, `Procedures.withDirectory`
                          how alike parts are put together
    `Procedures.inTurn`   alike procedures that are answered alike in turn have
                          alike accounts and results
    `Procedures.seam`     where they end early, they do so at the same place
-/
import Mathlib.Data.List.Forall2
import Provision.Proofs.Parts

namespace Provision

/-! ## §1. What is taken for the same. -/

/-- Does the request look at the files and tools of a host, or create a name
among them? -/
def Request.toGround : Request → Bool
  | .locate _ => true
  | .createFile .. => true
  | .createDirectory .. => true
  | .doesExist _ => true
  | .read _ => true
  | _ => false

/-- Is the notice anything but the announcement of a command? -/
def Notice.isStatus : Notice → Bool
  | .command _ => false
  | .planned _ => false
  | _ => true

/-- What a comparison of two runs takes for the same. -/
structure Likeness where
  text : String → String → Prop
  command : Command → Command → Prop
  failure : Failure → Failure → Prop
  notice : Notice → Notice → Prop
  text_refl : ∀ s, text s s
  /-- What is put below alike paths is alike. -/
  text_join : ∀ {p q : Path} (child : Path), text p.text q.text →
    text (p.join child).text (q.join child).text
  /-- A program with alike arguments is alike. -/
  command_of : ∀ (program : String) {xs ys : List String} {d e : Option Path},
    List.Forall₂ text xs ys → Option.Rel (fun p q => text p.text q.text) d e →
    command ⟨program, xs, d⟩ ⟨program, ys, e⟩
  failure_refl : ∀ f, failure f f
  /-- A step says the same in both runs; it never announces a command itself. -/
  notice_refl : ∀ {n : Notice}, n.isStatus = true → notice n n

namespace Likeness

variable (L : Likeness)

/-- Paths of alike texts. -/
def path (p q : Path) : Prop := L.text p.text q.text

/-- Results that are alike, or failures that are. -/
inductive Outcomes {α β : Type} (R : α → β → Prop) :
    Except Failure α → Except Failure β → Prop
  | ok {a : α} {b : β} (h : R a b) : Outcomes R (.ok a) (.ok b)
  | error {e f : Failure} (h : L.failure e f) : Outcomes R (.error e) (.error f)

/-- Requests that are alike: the content of a new file and what is logged make
no difference. -/
inductive Requests : Request → Request → Prop
  | run {c d : Command} (h : L.command c d) : Requests (.run c) (.run d)
  | capture (c : Command) : Requests (.capture c) (.capture c)
  | fetch (url : String) : Requests (.fetch url) (.fetch url)
  | locate (tool : String) : Requests (.locate tool) (.locate tool)
  | createFile {p q : Path} (h : L.path p q) (before after : String)
      (content content' : ByteArray) :
      Requests (.createFile p before after content) (.createFile q before after content')
  | createDirectory {p q : Path} (h : L.path p q) (before : String) :
      Requests (.createDirectory p before) (.createDirectory q before)
  | discard {p q : Path} (h : L.path p q) : Requests (.discard p) (.discard q)
  | doesExist (p : Path) : Requests (.doesExist p) (.doesExist p)
  | read (p : Path) : Requests (.read p) (.read p)
  | tell {m n : Notice} (h : L.notice m n) : Requests (.tell m) (.tell n)
  | log (x y : LogEntry) : Requests (.log x) (.log y)

/-- Answers to two requests of a kind that are alike. -/
def Answers : Exchange → Exchange → Prop
  | ⟨.run _, x⟩, ⟨.run _, y⟩ => L.Outcomes (fun _ _ => True) x y
  | ⟨.capture _, x⟩, ⟨.capture _, y⟩ => x = y
  | ⟨.fetch _, x⟩, ⟨.fetch _, y⟩ => L.Outcomes (fun _ _ => True) x y
  | ⟨.locate _, x⟩, ⟨.locate _, y⟩ => x = y
  | ⟨.createFile .., x⟩, ⟨.createFile .., y⟩ => L.Outcomes L.path x y
  | ⟨.createDirectory .., x⟩, ⟨.createDirectory .., y⟩ => L.Outcomes L.path x y
  | ⟨.doesExist _, x⟩, ⟨.doesExist _, y⟩ => x = y
  | ⟨.read _, x⟩, ⟨.read _, y⟩ => x = y
  | _, _ => True

/-- Alike requests with alike answers. -/
def Exchanges (e f : Exchange) : Prop := L.Requests e.request f.request ∧ L.Answers e f

/-- Wherever the two accounts hold alike requests, the answers are alike. -/
def Agree (E F : Account) : Prop :=
  ∀ e ∈ E, ∀ f ∈ F, L.Requests e.request f.request → L.Answers e f

/-- As long as the requests of the two accounts are alike, so are the answers. -/
def InTurn : Account → Account → Prop
  | e :: E, f :: F => L.Requests e.request f.request → L.Answers e f ∧ InTurn E F
  | _, _ => True

/-- The two accounts agree on what is found on the host and on how new names
are chosen there. -/
def SameGround (E F : Account) : Prop :=
  ∀ e ∈ E, ∀ f ∈ F, e.request.toGround = true → L.Requests e.request f.request → L.Answers e f

/-- Procedures that make alike requests as long as they get alike answers,
and then end alike. -/
inductive Procedures {α β : Type} (R : α → β → Prop) : Procedure α → Procedure β → Prop
  | done {a : α} {b : β} (h : R a b) : Procedures R (.done a) (.done b)
  | fail {e f : Failure} (h : L.failure e f) : Procedures R (.fail e) (.fail f)
  | ask {r s : Request} {k : r.Answer → Procedure α} {l : s.Answer → Procedure β}
      (hr : L.Requests r s)
      (hk : ∀ x y, L.Answers ⟨r, x⟩ ⟨s, y⟩ → Procedures R (k x) (l y)) :
      Procedures R (.ask r k) (.ask s l)

variable {L}

theorem path_refl (p : Path) : L.path p p := L.text_refl p.text

theorem path_join {p q : Path} (h : L.path p q) (child : Path) :
    L.path (p.join child) (q.join child) := L.text_join child h

/-- A list of texts is alike to itself. -/
theorem texts_refl (xs : List String) : List.Forall₂ L.text xs xs :=
  List.forall₂_same.mpr fun s _ => L.text_refl s

/-- Parts of accounts on the same ground are on the same ground. -/
theorem SameGround.mono {E E' F F' : Account} (h : L.SameGround E F) (hE : E' ⊆ E)
    (hF : F' ⊆ F) : L.SameGround E' F' := fun e he f hf => h e (hE he) f (hF hf)

/-- Parts of accounts that agree agree. -/
theorem Agree.mono {E E' F F' : Account} (h : L.Agree E F) (hE : E' ⊆ E) (hF : F' ⊆ F) :
    L.Agree E' F' := fun e he f hf => h e (hE he) f (hF hf)

/-- What the two accounts begin with. -/
theorem Agree.head {r s : Request} {x : r.Answer} {y : s.Answer} {E F : Account}
    (h : L.Agree (⟨r, x⟩ :: E) (⟨s, y⟩ :: F)) (hr : L.Requests r s) :
    L.Answers ⟨r, x⟩ ⟨s, y⟩ := h _ (List.mem_cons_self ..) _ (List.mem_cons_self ..) hr

/-- What the two accounts go on with. -/
theorem Agree.tail {e f : Exchange} {E F : Account} (h : L.Agree (e :: E) (f :: F)) :
    L.Agree E F := h.mono (List.subset_cons_self ..) (List.subset_cons_self ..)

/-- Accounts that agree everywhere agree in turn. -/
theorem Agree.inTurn {E F : Account} (h : L.Agree E F) : L.InTurn E F := by
  induction E generalizing F with
  | nil => cases F <;> trivial
  | cons e E ih =>
      cases F with
      | nil => trivial
      | cons f F => exact fun hr => ⟨h.head hr, ih h.tail⟩

/-- Requests are alike for whatever takes more for alike. -/
theorem Requests.imp {M : Likeness} (hpath : ∀ {p q}, L.path p q → M.path p q)
    (hcommand : ∀ {c d}, L.command c d → M.command c d)
    (hnotice : ∀ {m n}, L.notice m n → M.notice m n) {r s : Request} (h : L.Requests r s) :
    M.Requests r s := by
  cases h with
  | run h => exact .run (hcommand h)
  | capture c => exact .capture c
  | fetch url => exact .fetch url
  | locate tool => exact .locate tool
  | createFile h before after content content' =>
      exact .createFile (hpath h) before after content content'
  | createDirectory h before => exact .createDirectory (hpath h) before
  | discard h => exact .discard (hpath h)
  | doesExist p => exact .doesExist p
  | read p => exact .read p
  | tell h => exact .tell (hnotice h)
  | log x y => exact .log x y

/-- Of two alike requests both are about the ground or neither is. -/
theorem Requests.toGround_eq {r s : Request} (h : L.Requests r s) : r.toGround = s.toGround := by
  cases h <;> rfl

/-- An outcome is alike to itself, if the results are. -/
theorem outcomes_refl {β : Type} {S : β → β → Prop} (hS : ∀ b, S b b) (x : Except Failure β) :
    L.Outcomes S x x := by
  cases x with
  | ok b => exact .ok (hS b)
  | error e => exact .error (L.failure_refl e)

/-- **An answer is alike to itself**, to whatever request it was given. -/
theorem answers_refl (e : Exchange) : L.Answers e e := by
  obtain ⟨q, x⟩ := e
  cases q with
  | run c => exact outcomes_refl (fun _ => trivial) x
  | capture c => rfl
  | fetch url => exact outcomes_refl (fun _ => trivial) x
  | locate tool => rfl
  | createFile parent before after content => exact outcomes_refl path_refl x
  | createDirectory parent before => exact outcomes_refl path_refl x
  | discard path => trivial
  | doesExist path => rfl
  | read path => rfl
  | tell n => trivial
  | log entry => trivial

/-- An account agrees in turn with itself. -/
theorem inTurn_refl (E : Account) : L.InTurn E E := by
  induction E with
  | nil => trivial
  | cons e E ih => exact fun _ => ⟨answers_refl e, ih⟩

/-- Two hosts give alike answers about the ground in all their states. -/
def OneGround (L : Likeness) {σ τ : Type} (host : Host σ) (other : Host τ) : Prop :=
  ∀ r s (u : σ) (v : τ), r.toGround = true → L.Requests r s →
    L.Answers ⟨r, (host r u).1⟩ ⟨s, (other s v).1⟩

/-- Such hosts are the same ground to any two accounts. -/
theorem OneGround.sameGround {σ τ : Type} {host : Host σ} {other : Host τ} {E F : Account}
    (h : L.OneGround host other) (hE : ∀ e ∈ E, ∃ u, e.answer = (host e.request u).1)
    (hF : ∀ f ∈ F, ∃ v, f.answer = (other f.request v).1) : L.SameGround E F := by
  intro e he f hf hground hr
  obtain ⟨u, hu⟩ := hE e he
  obtain ⟨v, hv⟩ := hF f hf
  obtain ⟨q, x⟩ := e
  obtain ⟨q', y⟩ := f
  change x = (host q u).1 at hu
  change y = (other q' v).1 at hv
  subst hu hv
  exact h q q' u v hground hr

/-! ## §2. Putting parts together. -/

section Closure

open Procedure

variable {α β γ δ : Type} {R : α → β → Prop} {S : γ → δ → Prop}

/-- **Alike parts make alike sequences**, if alike results are handed on. -/
theorem Procedures.bind {p : Procedure α} {q : Procedure β} {f : α → Procedure γ}
    {g : β → Procedure δ} (hp : L.Procedures R p q)
    (hf : ∀ a b, R a b → L.Procedures S (f a) (g b)) :
    L.Procedures S (p.bind f) (q.bind g) := by
  induction hp with
  | done h => exact hf _ _ h
  | fail h => exact .fail h
  | ask hr _ ih => exact .ask hr ih

/-- What follows a part without a result does not depend on it. -/
theorem Procedures.andThen {p q : Procedure Unit} {f : Unit → Procedure γ}
    {g : Unit → Procedure δ} (hp : L.Procedures Eq p q) (hf : L.Procedures S (f ()) (g ())) :
    L.Procedures S (p.bind f) (q.bind g) :=
  hp.bind fun _ _ _ => hf

/-- On the same condition alike steps are both done or both left out. -/
theorem Procedures.when {p q : Procedure Unit} (h : L.Procedures Eq p q) (c : Bool) :
    L.Procedures Eq (when c p) (when c q) := by
  cases c with
  | false => exact .done rfl
  | true => exact h

/-- Alike outcomes that are known before anything is asked. -/
theorem alike_ofExcept {x : Except Failure α} {y : Except Failure β}
    (h : L.Outcomes R x y) : L.Procedures R (ofExcept x) (ofExcept y) := by
  cases h with
  | ok h => exact .done h
  | error h => exact .fail h

/-- Clean-up discards alike paths and keeps the outcomes. -/
theorem Procedures.withCleanUp {p : Procedure α} {q : Procedure β} {path path' : Path}
    (h : L.Procedures R p q) (hpath : L.path path path') :
    L.Procedures R (p.withCleanUp (discard path)) (q.withCleanUp (discard path')) := by
  induction h with
  | done h => exact .ask (.discard hpath) fun _ _ _ => .done h
  | fail h => exact .ask (.discard hpath) fun _ _ _ => .fail h
  | ask hr _ ih => exact .ask hr ih

/-- **Temporary files are created at alike paths**, whatever is written to them;
so their bodies have to be alike for alike paths. -/
theorem Procedures.withFile {parent parent' : Path} {body : Path → Procedure α}
    {body' : Path → Procedure β} (hparent : L.path parent parent')
    (h : ∀ path path', L.path path path' → L.Procedures R (body path) (body' path'))
    (before after : String) (content content' : ByteArray) :
    L.Procedures R (withFile parent before after content body)
      (withFile parent' before after content' body') :=
  .ask (.createFile hparent before after content content') fun _ _ hxy =>
    (alike_ofExcept hxy).bind fun path path' hpath => (h path path' hpath).withCleanUp hpath

/-- The same for temporary directories. -/
theorem Procedures.withDirectory {parent parent' : Path} {body : Path → Procedure α}
    {body' : Path → Procedure β} (hparent : L.path parent parent')
    (h : ∀ path path', L.path path path' → L.Procedures R (body path) (body' path'))
    (before : String) :
    L.Procedures R (withDirectory parent before body) (withDirectory parent' before body') :=
  .ask (.createDirectory hparent before) fun _ _ hxy =>
    (alike_ofExcept hxy).bind fun path path' hpath => (h path path' hpath).withCleanUp hpath

/-- Alike commands are alike steps, though they may fail with different texts. -/
theorem alike_run {c d : Command} (h : L.command c d) : L.Procedures Eq (run c) (run d) := by
  refine .ask (.run h) ?_
  intro x y hxy
  exact alike_ofExcept (match x, y, hxy with
    | _, _, .ok _ => .ok rfl
    | _, _, .error h => .error h)

/-- A captured command has to be the same, since its output is looked at. -/
theorem alike_capture (c : Command) : L.Procedures Eq (capture c) (capture c) :=
  .ask (.capture c) fun _ _ hxy => .done hxy

/-- The search path is looked at for the same tool. -/
theorem alike_locate (tool : String) : L.Procedures Eq (locate tool) (locate tool) :=
  .ask (.locate tool) fun _ _ hxy => .done hxy

theorem alike_doesExist (path : Path) : L.Procedures Eq (doesExist path) (doesExist path) :=
  .ask (.doesExist path) fun _ _ hxy => .done hxy

/-- The same address is fetched, and its bytes make no difference. -/
theorem alike_fetch (url : String) :
    L.Procedures (L.Outcomes fun _ _ => True) (fetch url) (fetch url) :=
  .ask (.fetch url) fun _ _ hxy => .done hxy

/-- Alike notices are alike steps. -/
theorem alike_tell {m n : Notice} (h : L.notice m n) : L.Procedures Eq (tell m) (tell n) :=
  .ask (.tell h) fun _ _ _ => .done rfl

theorem alike_step (text : String) : L.Procedures Eq (step text) (step text) :=
  alike_tell (L.notice_refl rfl)

/-- Any two lines for the log are alike. -/
theorem alike_log {level : LogLevel} {source : LogSource} {text text' : String} :
    L.Procedures Eq (log level source text) (log level source text') :=
  .ask (.log _ _) fun _ _ _ => .done rfl

theorem alike_fail (e : Failure) : L.Procedures R (.fail e) (.fail e) := .fail (L.failure_refl e)

/-- A file that is read decides what comes next, so both runs have to read the
same bytes. -/
theorem alike_read (path : Path) : L.Procedures Eq (read path) (read path) := by
  refine .ask (.read path) ?_
  rintro x _ rfl
  cases x with
  | ok bytes => exact .done rfl
  | error e => exact alike_fail e

/-- Lists of commands that are alike one by one. -/
theorem alike_forM_run {cs ds : List Command} (h : List.Forall₂ L.command cs ds) :
    L.Procedures Eq (cs.forM run) (ds.forM run) := by
  induction h with
  | nil => exact .done rfl
  | cons hc _ ih => exact (alike_run hc).andThen ih

end Closure

/-! ## §3. In step along two accounts. -/

section Lockstep

variable {α β γ δ : Type} {R : α → β → Prop} {E F : Account}

/-- **Alike procedures have alike accounts and results**, if they get alike
answers in turn. -/
theorem Procedures.inTurn {p : Procedure α} {q : Procedure β} {x : Except Failure α}
    {y : Except Failure β} (h : L.Procedures R p q) (hp : p.Leads E x) (hq : q.Leads F y)
    (hturn : L.InTurn E F) : List.Forall₂ L.Exchanges E F ∧ L.Outcomes R x y := by
  -- Alike requests get alike answers, and those keep what follows alike.
  induction h generalizing E F with
  | done h =>
      cases hp
      cases hq
      exact ⟨.nil, .ok h⟩
  | fail h =>
      cases hp
      cases hq
      exact ⟨.nil, .error h⟩
  | ask hr _ ih =>
      obtain ⟨a, E', rfl, hk⟩ := Procedure.leads_ask.mp hp
      obtain ⟨b, F', rfl, hl⟩ := Procedure.leads_ask.mp hq
      obtain ⟨hab, hrest⟩ := hturn hr
      obtain ⟨hEF, hxy⟩ := ih a b hab hk hl hrest
      exact ⟨.cons ⟨hr, hab⟩ hEF, hxy⟩

/-- **Hosts that answer alike requests alike do so in turn**, if what they need
for it of their states is kept by every such request. -/
theorem inTurn_account {σ τ : Type} {host : Host σ} {other : Host τ} {I : σ → τ → Prop}
    (h : ∀ r s u v, I u v → L.Requests r s →
      L.Answers ⟨r, (host r u).1⟩ ⟨s, (other s v).1⟩ ∧ I (host r u).2 (other s v).2)
    (p : Procedure α) (q : Procedure β) {u : σ} {v : τ} (hI : I u v) :
    L.InTurn (p.account host u) (q.account other v) := by
  -- On the first procedure; the second one has a request of its own to match the first
  -- request, or else nothing is claimed.
  induction p generalizing q u v with
  | done a => trivial
  | fail e => trivial
  | ask r k ih =>
      cases q with
      | done b => trivial
      | fail f => trivial
      | ask s l =>
          intro hr
          obtain ⟨hanswers, hnext⟩ := h r s u v hI hr
          exact ⟨hanswers, ih _ _ hnext⟩

/-- The same for accounts that agree everywhere. -/
theorem Procedures.lockstep {p : Procedure α} {q : Procedure β} {x : Except Failure α}
    {y : Except Failure β} (h : L.Procedures R p q) (hp : p.Leads E x) (hq : q.Leads F y)
    (hag : L.Agree E F) : List.Forall₂ L.Exchanges E F ∧ L.Outcomes R x y :=
  h.inTurn hp hq hag.inTurn

/-- **Where alike first parts end early, they do so at the same place**;
otherwise what follows goes on from alike accounts. -/
theorem Procedures.seam {p : Procedure α} {q : Procedure β} {f : α → Procedure γ}
    {g : β → Procedure δ} {x : Except Failure γ} {y : Except Failure δ}
    (h : L.Procedures R p q) (hp : (p.bind f).Leads E x) (hq : (q.bind g).Leads F y)
    (hag : L.Agree E F) :
    (∃ e e', x = .error e ∧ y = .error e' ∧ L.failure e e' ∧ List.Forall₂ L.Exchanges E F)
      ∨ ∃ a b E₁ E₂ F₁ F₂, R a b ∧ E = E₁ ++ E₂ ∧ F = F₁ ++ F₂
          ∧ List.Forall₂ L.Exchanges E₁ F₁ ∧ (f a).Leads E₂ x ∧ (g b).Leads F₂ y := by
  -- Either run may end in its first part; that only one of them does is impossible.
  rcases Procedure.leads_bind.mp hp with ⟨e, hpe, rfl⟩ | ⟨a, E₁, E₂, rfl, hpa, hfa⟩
  · rcases Procedure.leads_bind.mp hq with ⟨e', hqe, rfl⟩ | ⟨b, F₁, F₂, rfl, hqb, -⟩
    · obtain ⟨hEF, hee⟩ := h.lockstep hpe hqe hag
      cases hee with
      | error hee => exact .inl ⟨e, e', rfl, rfl, hee, hEF⟩
    · -- A failure and a result are not alike.
      have hout := (h.lockstep hpe hqb
        (hag.mono (List.Subset.refl _) (List.subset_append_left ..))).2
      cases hout
  · rcases Procedure.leads_bind.mp hq with ⟨e', hqe, rfl⟩ | ⟨b, F₁, F₂, rfl, hqb, hgb⟩
    · -- Nor are a result and a failure.
      have hout := (h.lockstep hpa hqe
        (hag.mono (List.subset_append_left ..) (List.Subset.refl _))).2
      cases hout
    · obtain ⟨hEF, hab⟩ := h.lockstep hpa hqb
        (hag.mono (List.subset_append_left ..) (List.subset_append_left ..))
      cases hab with
      | ok hab => exact .inr ⟨a, b, E₁, E₂, F₁, F₂, hab, rfl, rfl, hEF, hfa, hgb⟩

end Lockstep

end Likeness

end Provision
