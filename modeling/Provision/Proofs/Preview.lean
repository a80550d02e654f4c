/-
  Provision.Proofs.Preview
  ────────────────────────
  **A DRY RUN SHOWS WHAT A REAL RUN DOES.**

  Both runs are the same procedure but for the check of the interpreter and
  the last line.  On the same host they ask the same and get the same answers;
  where the real run starts a command, the dry run shows it.  So both print
  the same lines, up to the names of what is created, until both end in the
  same failure or each with its own last line.

  Main results:

    `inStep_exchanges`     alike exchanges look alike from below
    `Previews.seam`        what is a preview of a part goes on as one
    `observe_previews`     a dry run is a preview of the real one
-/
import Provision.Proofs.Plan
import Provision.Proofs.Printing
import Provision.Proofs.Replay

namespace Provision

open Procedure

/-! ## §1. What is seen of a run. -/

/-- The lines that a dry run shows for commands. -/
def Account.planned (E : Account) : List String :=
  E.notices.filterMap fun n => match n with
    | .planned line => some line
    | _ => none

/-- The planned commands of two accounts, one after the other. -/
@[simp] theorem planned_append (E F : Account) :
    Account.planned (E ++ F) = E.planned ++ F.planned := by
  simp only [Account.planned, Account.notices_append, List.filterMap_append]

/-- Two accounts look alike: the commands that the one shows are those that the
other runs, and the lines on standard output are alike. -/
structure InStep (N : Renaming) (o : Output) (D R : Account) : Prop where
  commands : List.Forall₂ N.Alike D.planned (R.commands.map Command.line)
  lines : List.Forall₂ N.Alike (D.stdout o) (R.stdout o)

/-- What the account `D` of a dry run with its result is to that of a real run:
the same commands, and the same lines up to the same failure or up to the
last line of each. -/
structure Previews (N : Renaming) (o : Output) (D R : Except Failure Unit × Account) :
    Prop where
  commands : List.Forall₂ N.Alike D.2.planned (R.2.commands.map Command.line)
  ending :
    (∃ e e', D.1 = .error e ∧ R.1 = .error e' ∧ N.Failures e e'
        ∧ List.Forall₂ N.Alike (D.2.stdout o) (R.2.stdout o))
      ∨ (D.1 = .ok () ∧ R.1 = .ok () ∧ ∃ ls ls',
          D.2.stdout o = ls ++ ["✓ Dry run complete"]
            ∧ R.2.stdout o = ls' ++ ["✓ All dependencies installed"]
            ∧ List.Forall₂ N.Alike ls ls')

variable {N : Renaming} {o : Output}

/-- Accounts that are in step stay so when others follow that are. -/
theorem InStep.append {D D' R R' : Account} (h : InStep N o D R) (h' : InStep N o D' R') :
    InStep N o (D ++ D') (R ++ R') where
  commands := by
    rw [planned_append, Account.commands_append, List.map_append]
    exact List.rel_append h.commands h'.commands
  lines := by
    rw [stdout_append, stdout_append]
    exact List.rel_append h.lines h'.lines

/-- Where nothing is told no command is planned. -/
theorem planned_of_notices {E : Account} (h : E.notices = []) : E.planned = [] := by
  unfold Account.planned
  rw [h]
  rfl

/-- Accounts that tell nothing and run nothing look alike. -/
theorem inStep_silent {D R : Account} (hD : D.notices = []) (hR : R.notices = [])
    (hcommands : R.commands = []) : InStep N o D R where
  commands := by
    rw [planned_of_notices hD, hcommands]
    exact .nil
  lines := by
    rw [stdout_of_notices hD, stdout_of_notices hR]
    exact .nil

/-- Runs that are in step and end in alike failures preview each other. -/
theorem Previews.of_error {D R : Account} {e e' : Failure} (h : InStep N o D R)
    (he : N.Failures e e') : Previews N o (.error e, D) (.error e', R) where
  commands := h.commands
  ending := .inl ⟨e, e', rfl, rfl, he, h.lines⟩

/-- What has happened before goes before. -/
theorem Previews.prepend {D R E F : Account} {x y : Except Failure Unit} (h : InStep N o E F)
    (hp : Previews N o (x, D) (y, R)) : Previews N o (x, E ++ D) (y, F ++ R) where
  commands := by
    rw [planned_append, Account.commands_append, List.map_append]
    exact List.rel_append h.commands hp.commands
  ending := by
    rcases hp.ending with ⟨e, e', hx, hy, he, hlines⟩ | ⟨hx, hy, ls, ls', hD, hR, hlines⟩
    · refine .inl ⟨e, e', hx, hy, he, ?_⟩
      rw [stdout_append, stdout_append]
      exact List.rel_append h.lines hlines
    · refine .inr ⟨hx, hy, E.stdout o ++ ls, F.stdout o ++ ls', ?_, ?_,
        List.rel_append h.lines hlines⟩
      · rw [stdout_append, hD, List.append_assoc]
      · rw [stdout_append, hR, List.append_assoc]

/-- What follows silently changes nothing. -/
theorem Previews.append {D R E F : Account} {x y : Except Failure Unit}
    (hp : Previews N o (x, D) (y, R)) (hE : E.notices = []) (hF : F.notices = [])
    (hcommands : F.commands = []) : Previews N o (x, D ++ E) (y, R ++ F) where
  commands := by
    rw [planned_append, Account.commands_append, planned_of_notices hE, hcommands,
      List.append_nil, List.append_nil]
    exact hp.commands
  ending := by
    rw [stdout_append, stdout_append, stdout_of_notices hE, stdout_of_notices hF,
      List.append_nil, List.append_nil]
    exact hp.ending

/-! ## §2. Alike exchanges. -/

/-- Color makes no difference to likeness. -/
theorem alike_paint (colors : Bool) (style : Style) {s t : String} (h : N.Alike s t) :
    N.Alike (paint colors style s) (paint colors style t) := by
  unfold paint
  split
  · exact h
  · exact .append (.append (.same _) h) (.same _)

section Exchanges

variable (verbose : o.mode = .verbose)
include verbose

/-- A command that is shown and the same command before it runs. -/
theorem alike_command {line line' : String} (h : N.Alike line line') :
    List.Forall₂ N.Alike (o.lines .stdout [.planned line]) (o.lines .stdout [.command line']) := by
  have hcommand : o.lines .stdout [.command line']
      = ["  " ++ o.theme.formatCommand o.colors line'] := by
    unfold Output.lines
    rw [List.filterMap_cons]
    unfold Output.render OutputMode.showsCommands
    rw [verbose]
    rfl
  rw [hcommand]
  exact .cons (.append (.same _) (alike_paint _ _ (.append (.same _) h))) .nil

/-- One exchange of a dry run and an alike one of a real run. -/
theorem inStep_exchange {e f : Exchange} (h : N.likeness.Exchanges e f) :
    InStep N o e.rehearsed f.announced := by
  obtain ⟨q, x⟩ := e
  obtain ⟨r, y⟩ := f
  obtain ⟨hr, -⟩ := h
  cases hr with
  -- A command is shown on the one side, and echoed and run on the other.
  | run hc =>
      exact ⟨.cons (Renaming.alike_line hc) .nil,
        alike_command verbose (Renaming.alike_line hc)⟩
  | tell hn =>
      obtain ⟨rfl, hstatus⟩ := hn
      refine ⟨?_, List.forall₂_same.mpr fun s _ => .same s⟩
      rename_i n
      cases n with
      | command line => cases hstatus
      | planned line => cases hstatus
      | _ => exact .nil
  | _ => exact inStep_silent rfl rfl rfl

/-- **Alike exchanges look alike from below.** -/
theorem inStep_exchanges {E F : Account} (h : List.Forall₂ N.likeness.Exchanges E F) :
    InStep N o (E.flatMap Exchange.rehearsed) (F.flatMap Exchange.announced) := by
  induction h with
  | nil => exact inStep_silent rfl rfl rfl
  | cons hef _ ih =>
      rw [List.flatMap_cons, List.flatMap_cons]
      exact (inStep_exchange verbose hef).append ih

end Exchanges

/-! ## §3. Previews of parts. -/

/-- What the account above a rehearsing host is below it, with the result, and
the account above an announcing one. -/
abbrev PreviewsAbove (N : Renaming) (o : Output) (E : Account) (x : Except Failure Unit)
    (F : Account) (y : Except Failure Unit) : Prop :=
  Previews N o (x, E.flatMap Exchange.rehearsed) (y, F.flatMap Exchange.announced)

variable {α β : Type} {E F : Account} {x y : Except Failure Unit}

/-- **What goes on as a preview after alike first parts is one.** -/
theorem Previews.seam (verbose : o.mode = .verbose) {S : α → β → Prop} {p : Procedure α}
    {q : Procedure β} {f : α → Procedure Unit} {g : β → Procedure Unit}
    (h : N.likeness.Procedures S p q) (hp : (p.bind f).Leads E x) (hq : (q.bind g).Leads F y)
    (hag : N.likeness.Agree E F)
    (hnext : ∀ a b E' F', S a b → N.likeness.Agree E' F' → (f a).Leads E' x → (g b).Leads F' y →
      PreviewsAbove N o E' x F' y) : PreviewsAbove N o E x F y := by
  rcases h.seam hp hq hag with ⟨e, e', rfl, rfl, he, hEF⟩
    | ⟨a, b, E₁, E₂, F₁, F₂, hab, rfl, rfl, hEF, hf, hg⟩
  · exact .of_error (inStep_exchanges verbose hEF) he
  · unfold PreviewsAbove
    rw [List.flatMap_append, List.flatMap_append]
    exact .prepend (inStep_exchanges verbose hEF) (hnext a b E₂ F₂ hab
      (hag.mono (List.subset_append_right ..) (List.subset_append_right ..)) hf hg)

/-- A preview of the body is one of the body in a new directory. -/
theorem Previews.withDirectory {parent : Path} {before : String}
    {body body' : Path → Procedure Unit}
    (hp : (Procedure.withDirectory parent before body).Leads E x)
    (hq : (Procedure.withDirectory parent before body').Leads F y)
    (hag : N.likeness.Agree E F)
    (hbody : ∀ path path' E' F', N.likeness.path path path' → N.likeness.Agree E' F' →
      (body path).Leads E' x → (body' path').Leads F' y → PreviewsAbove N o E' x F' y) :
    PreviewsAbove N o E x F y := by
  have hr : N.likeness.Requests (.createDirectory parent before)
      (.createDirectory parent before) :=
    .createDirectory (Likeness.path_refl parent) before
  rcases leads_withDirectory.mp hp with ⟨e, rfl, rfl⟩ | ⟨path, E', rfl, hE'⟩
  · -- The directory is made in both runs or in neither, as the answers are alike.
    rcases leads_withDirectory.mp hq with ⟨e', rfl, rfl⟩ | ⟨path', F', rfl, hF'⟩
    · cases hag.head hr with
      | error he => exact .of_error (inStep_silent rfl rfl rfl) he
    · cases hag.head hr
  · rcases leads_withDirectory.mp hq with ⟨e', rfl, rfl⟩ | ⟨path', F', rfl, hF'⟩
    · cases hag.head hr
    · cases hag.head hr with
      | ok hpath =>
          have hinner := hbody path path' E' F' hpath (hag.mono
            (fun z hz => List.mem_cons_of_mem _ (List.mem_append_left _ hz))
            (fun z hz => List.mem_cons_of_mem _ (List.mem_append_left _ hz))) hE' hF'
          unfold PreviewsAbove at hinner ⊢
          rw [List.flatMap_cons, List.flatMap_cons, List.flatMap_append, List.flatMap_append]
          exact .prepend (inStep_silent rfl rfl rfl) (hinner.append rfl rfl rfl)

/-! ## §4. The check of the interpreter. -/

namespace Procedure

/-- The procedure tells nothing and runs nothing, and it fails with `Q` only. -/
def Hushed (Q : Failure → Prop) (p : Procedure α) : Prop :=
  ∀ E r, p.Leads E r → Account.notices (E.flatMap Exchange.announced) = []
    ∧ Account.commands (E.flatMap Exchange.announced) = [] ∧ ∀ e, r = .error e → Q e

variable {Q : Failure → Prop}

theorem hushed_done (a : α) : (Procedure.done a).Hushed Q := by
  intro E r h
  obtain ⟨rfl, rfl⟩ := leads_done.mp h
  exact ⟨rfl, rfl, fun e he => by cases he⟩

theorem hushed_fail {e : Failure} (he : Q e) : (Procedure.fail e : Procedure α).Hushed Q := by
  intro E r h
  obtain ⟨rfl, rfl⟩ := leads_fail.mp h
  refine ⟨rfl, rfl, ?_⟩
  intro f hf
  injection hf with hf
  exact hf ▸ he

theorem hushed_log (level : LogLevel) (source : LogSource) (text : String) :
    (log level source text).Hushed Q := by
  intro E r h
  obtain ⟨x, F, rfl, hF⟩ := leads_ask.mp h
  exact hushed_done () F r hF

theorem hushed_capture (c : Command) : (capture c).Hushed Q := by
  intro E r h
  obtain ⟨x, F, rfl, hF⟩ := leads_ask.mp h
  exact hushed_done x F r hF

/-- A sequence is hushed, if its parts are. -/
theorem Hushed.bind {p : Procedure α} {f : α → Procedure β} (hp : p.Hushed Q)
    (hf : ∀ a, (f a).Hushed Q) : (p.bind f).Hushed Q := by
  intro E r h
  rcases leads_bind.mp h with ⟨e, he, rfl⟩ | ⟨a, E₁, E₂, rfl, h₁, h₂⟩
  · obtain ⟨hnotices, hcommands, hQ⟩ := hp E _ he
    refine ⟨hnotices, hcommands, ?_⟩
    intro f hf
    injection hf with hf
    exact hf ▸ hQ e rfl
  · obtain ⟨hnotices, hcommands, -⟩ := hp E₁ _ h₁
    obtain ⟨hnotices', hcommands', hQ⟩ := hf a E₂ r h₂
    rw [List.flatMap_append, Account.notices_append, Account.commands_append, hnotices,
      hcommands, hnotices', hcommands']
    exact ⟨rfl, rfl, hQ⟩

end Procedure

/-- Is it the failure of the check of the interpreter? -/
def IsPythonFailure (e : Failure) : Prop := ∃ text, e = .missingPrerequisite "python" text

/-- **The check of the interpreter says nothing to the user** and fails in its
own way only. -/
theorem hushed_checkPython (ctx : Context) :
    (Sequence.checkPython ctx).Hushed IsPythonFailure := by
  have hpython : (ToolVersion.python ctx.settings.python).Hushed IsPythonFailure := by
    refine Hushed.bind ((hushed_capture _).bind fun answer => ?_) fun _ => hushed_done _
    cases answer with
    | error e => exact hushed_done _
    | ok r =>
        show (if r.succeeded then _ else _ : Procedure _).Hushed _
        split
        · exact hushed_done _
        · exact (hushed_log _ _ _).bind fun _ => hushed_done _
  refine hpython.bind fun found => ?_
  cases found with
  | none => exact hushed_fail ⟨_, rfl⟩
  | some release =>
      show (if release.atLeast Sequence.oldestPython then _ else _ : Procedure _).Hushed _
      split
      · exact hushed_log _ _ _
      · exact hushed_fail ⟨_, rfl⟩

/-! ## §5. Both runs. -/

/-- The line of a success, where lines have no colours. -/
theorem stdout_success {w : Surroundings} {a : CommandLine.Arguments}
    (hverbose : a.outputMode = .verbose) (text : String) (x : Unit) :
    Account.stdout (Session.output w a) [⟨.tell (.success text), x⟩] = ["✓ " ++ text] := by
  have htheme : (Session.output w a).theme = .plain := by
    show Theme.detect (w.noColor a) false = .plain
    unfold Theme.detect Theme.useColors
    rw [Bool.and_false]
    rfl
  have hmode : (Session.output w a).mode = .verbose := hverbose
  unfold Account.stdout
  show (Session.output w a).lines .stdout [.success text] = _
  unfold Output.lines
  rw [List.filterMap_cons]
  unfold Output.render OutputMode.showsStatus
  rw [hmode, htheme]
  unfold Theme.formatSuccess
  show ["" ++ paint _ [] ("✓ " ++ text)] = _
  rw [paint_plain, String.empty_append]

/-- A dry installation is a preview of the real one. -/
theorem preview_installIn {w : Surroundings} {a : CommandLine.Arguments}
    (hverbose : a.outputMode = .verbose) (ctx : Context) {scratch scratch' : Path}
    (hpath : N.likeness.path scratch scratch') (hag : N.likeness.Agree E F)
    (hpython : ∀ e, y = .error e → ¬ IsPythonFailure e)
    (hD : (Run.installIn ctx.target { ctx.config with dryRun := true } ctx.settings
      scratch).Leads E x)
    (hR : (Run.installIn ctx.target { ctx.config with dryRun := false } ctx.settings
      scratch').Leads F y) :
    PreviewsAbove N (Session.output w a) E x F y := by
  have hmode : (Session.output w a).mode = .verbose := hverbose
  unfold Run.installIn at hD hR
  simp only [Procedure.bind_eq, Sequence.install_eq, bind_assoc] at hD hR
  refine Previews.seam hmode (Likeness.alike_tell (N.likeness.notice_refl rfl)) hD hR hag ?_
  intro _ _ E₁ F₁ _ hag₁ hD₁ hR₁
  refine Previews.seam hmode Likeness.alike_log hD₁ hR₁ hag₁ ?_
  intro _ _ E₂ F₂ _ hag₂ hD₂ hR₂
  -- Here the runs part: the one checks the interpreter, the other does not.
  obtain ⟨u, E₃, rfl, hD₃⟩ := leads_ask.mp hD₂
  rcases leads_bind.mp hR₂ with ⟨e, he, rfl⟩ | ⟨v, F₃, F₄, rfl, hcheck, hR₃⟩
  · exact absurd ((hushed_checkPython _ F₂ _ he).2.2 e rfl) (hpython e rfl)
  · obtain ⟨hnotices, hcommands, -⟩ := hushed_checkPython _ F₃ _ hcheck
    have hag₃ : N.likeness.Agree E₃ F₄ :=
      hag₂.mono (List.subset_cons_self ..) (List.subset_append_right ..)
    unfold PreviewsAbove
    rw [List.flatMap_cons, List.flatMap_append]
    refine .prepend (inStep_silent rfl hnotices hcommands) ?_
    have hsteps := Likeness.alike_steps (Likeness.contexts_scratch ctx hpath)
    refine Previews.seam hmode hsteps hD₃ hR₃ hag₃ ?_
    intro _ _ E₄ F₅ _ _ hD₄ hR₄
    obtain ⟨z, E₅, rfl, hD₅⟩ := leads_ask.mp hD₄
    obtain ⟨z', F₆, rfl, hR₅⟩ := leads_ask.mp hR₄
    obtain ⟨rfl, rfl⟩ := leads_done.mp hD₅
    obtain ⟨rfl, rfl⟩ := leads_done.mp hR₅
    exact ⟨.nil, .inr ⟨rfl, rfl, [], [], stdout_success hverbose _ _,
      stdout_success hverbose _ _, .nil⟩⟩

/-- The result of a run and what reaches its host, with the answers. -/
def Run.observe {σ : Type} (host : Host σ) (w : Surroundings) (a : CommandLine.Arguments)
    (s : σ) : Except Failure Unit × Account :=
  let r := (Run.install w a).perform (Run.layer a (observed host)) (s, [])
  (r.1, r.2.2)

/-- A dry run, as it is seen from below its rehearsing layer. -/
theorem observe_dry {σ : Type} (host : Host σ) (w : Surroundings) (a : CommandLine.Arguments)
    (s : σ) : Run.observe host w { a with dryRun := true } s
      = (((Run.install w { a with dryRun := true }).perform (rehearsing host) s).1,
          ((Run.install w { a with dryRun := true }).account (rehearsing host) s).flatMap
            Exchange.rehearsed) := by
  unfold Run.observe
  rw [perform_layer_observed]
  rfl

/-- A real run, as it is seen from below its announcing layer. -/
theorem observe_real {σ : Type} (host : Host σ) (w : Surroundings) (a : CommandLine.Arguments)
    (s : σ) : Run.observe host w { a with dryRun := false } s
      = (((Run.install w { a with dryRun := false }).perform (announcing host) s).1,
          ((Run.install w { a with dryRun := false }).account (announcing host) s).flatMap
            Exchange.announced) := by
  unfold Run.observe
  rw [perform_layer_observed]
  rfl

/-- Every command that is run exits with 0, and every download succeeds. -/
structure Account.Succeeds (E : Account) : Prop where
  run : ∀ c x, ⟨.run c, x⟩ ∈ E → x = .ok ()
  fetch : ∀ url x, ⟨.fetch url, x⟩ ∈ E → ∃ body, x = .ok body

/-- Two runs agree if they succeed in what they do, if Homebrew is all that
they ask in common, and if the host is the same ground to both. -/
theorem agree_of_succeeds (hE : E.Succeeds) (hF : F.Succeeds)
    (hcaptured : ∀ c z, ⟨.capture c, z⟩ ∈ E → c = ToolVersion.question "brew")
    (hbrew : ∀ z z', ⟨.capture (ToolVersion.question "brew"), z⟩ ∈ E →
      ⟨.capture (ToolVersion.question "brew"), z'⟩ ∈ F → z = z')
    (hground : N.likeness.SameGround E F) : N.likeness.Agree E F := by
  intro e he f hf hr
  obtain ⟨q, z⟩ := e
  obtain ⟨q', z'⟩ := f
  cases hr with
  -- In a dry run commands succeed as a matter of course, in the real one by assumption.
  | run h =>
      rw [hE.run _ z he, hF.run _ z' hf]
      exact .ok trivial
  | capture c =>
      have hc := hcaptured c z he
      subst hc
      exact hbrew z z' he hf
  | fetch url =>
      obtain ⟨body, rfl⟩ := hE.fetch url z he
      obtain ⟨body', rfl⟩ := hF.fetch url z' hf
      exact .ok trivial
  | locate tool => exact hground _ he _ hf rfl (.locate tool)
  | createFile h before after content content' =>
      exact hground _ he _ hf rfl (.createFile h before after content content')
  | createDirectory h before => exact hground _ he _ hf rfl (.createDirectory h before)
  | discard h => trivial
  | doesExist p => exact hground _ he _ hf rfl (.doesExist p)
  | read p => exact hground _ he _ hf rfl (.read p)
  | tell h => trivial
  | log u v => trivial

theorem announced_self {e : Exchange} (h : e ∈ F) : e ∈ F.flatMap Exchange.announced := by
  refine List.mem_flatMap.mpr ⟨e, h, ?_⟩
  obtain ⟨q, z⟩ := e
  cases q with
  | run c => exact List.mem_cons_of_mem _ (List.mem_singleton.mpr rfl)
  | _ => exact List.mem_singleton.mpr rfl

/-- What is neither run nor downloaded reaches the host of a rehearsal. -/
theorem rehearsed_self {e : Exchange} (h : e ∈ E)
    (he : e.request.toGround = true ∨ ∃ c, e.request = .capture c) :
    e ∈ E.flatMap Exchange.rehearsed := by
  refine List.mem_flatMap.mpr ⟨e, h, ?_⟩
  obtain ⟨q, z⟩ := e
  cases q with
  | run c => rcases he with h | ⟨c, h⟩ <;> cases h
  | fetch url => rcases he with h | ⟨c, h⟩ <;> cases h
  | _ => exact List.mem_singleton.mpr rfl

/-- In a rehearsal everything succeeds. -/
theorem succeeds_rehearsing {σ : Type} (host : Host σ) (p : Procedure α) (s : σ) :
    (p.account (rehearsing host) s).Succeeds where
  run c z hz := by
    obtain ⟨t, ht⟩ := answer_account hz
    exact ht
  fetch url z hz := by
    obtain ⟨t, ht⟩ := answer_account hz
    exact ⟨_, ht⟩

/-- **A dry run is a preview of the real one.**  Let both start with the same
arguments, in verbose mode, on hosts that are the same ground and answer the
question for Homebrew alike, and let the real run pass the check of the
interpreter and succeed in every command and every download that it comes to.
Then both end in the same failure after the same lines, or both succeed with
the same lines but for the last; and the commands shown are those that run. -/
theorem observe_previews {σ τ : Type} (N : Renaming) (host : Host σ) (host' : Host τ)
    (w : Surroundings) (a : CommandLine.Arguments) (s : σ) (t : τ)
    (hverbose : a.outputMode = .verbose)
    (hground : N.likeness.SameGround (Run.observe host w { a with dryRun := true } s).2
      (Run.observe host' w { a with dryRun := false } t).2)
    (hbrew : ∀ z z',
      ⟨.capture ⟨"brew", ["--version"], none⟩, z⟩
        ∈ (Run.observe host w { a with dryRun := true } s).2 →
      ⟨.capture ⟨"brew", ["--version"], none⟩, z'⟩
        ∈ (Run.observe host' w { a with dryRun := false } t).2 → z = z')
    (hsucceeds : (Run.observe host' w { a with dryRun := false } t).2.Succeeds)
    (hpython : ∀ text, (Run.observe host' w { a with dryRun := false } t).1
      ≠ .error (.missingPrerequisite "python" text)) :
    Previews N (Session.output w a) (Run.observe host w { a with dryRun := true } s)
      (Run.observe host' w { a with dryRun := false } t) := by
  have hmode : (Session.output w a).mode = .verbose := hverbose
  rw [observe_dry] at hground hbrew ⊢
  rw [observe_real] at hground hbrew hsucceeds hpython ⊢
  have hD := leads_account (rehearsing host) (Run.install w { a with dryRun := true }) s
  have hR := leads_account (announcing host') (Run.install w { a with dryRun := false }) t
  have hcaptured : ∀ c z, ⟨.capture c, z⟩ ∈ (Run.install w { a with dryRun := true }).account
      (rehearsing host) s → c = ToolVersion.question "brew" := fun c z hz =>
    (tidy_install w (P := fun c => c = ToolVersion.question "brew") rfl fun _ => rfl).captured
      hD hz
  have hrehearsed := succeeds_rehearsing host (Run.install w { a with dryRun := true }) s
  generalize (Run.install w { a with dryRun := true }).account (rehearsing host) s = E at *
  generalize ((Run.install w { a with dryRun := true }).perform (rehearsing host) s).1 = x at *
  generalize (Run.install w { a with dryRun := false }).account (announcing host') t = F at *
  generalize ((Run.install w { a with dryRun := false }).perform (announcing host') t).1 = y at *
  -- What is assumed of the two hosts below is passed on to the accounts above.
  have hag : N.likeness.Agree E F := by
    refine agree_of_succeeds hrehearsed ⟨?_, ?_⟩ hcaptured ?_ ?_
    · exact fun c z hz => hsucceeds.run c z (announced_self hz)
    · exact fun url z hz => hsucceeds.fetch url z (announced_self hz)
    · exact fun z z' hz hz' => hbrew z z' (rehearsed_self hz (.inr ⟨_, rfl⟩)) (announced_self hz')
    · exact fun e he f hf hg => hground e (rehearsed_self he (.inl hg)) f (announced_self hf) hg
  have hpython' : ∀ e, y = .error e → ¬ IsPythonFailure e := by
    rintro e rfl ⟨text, rfl⟩
    exact hpython text rfl
  -- Both runs resolve the root, load the settings and create the scratch directory.
  refine Previews.seam hmode (Likeness.alike_ofExcept
    (Likeness.outcomes_refl (fun _ => rfl) (Run.projectRoot w.directory a.project))) hD hR hag ?_
  rintro root _ E₁ F₁ rfl hag₁ hD₁ hR₁
  refine Previews.seam hmode (Likeness.alike_load root a.config) hD₁ hR₁ hag₁ ?_
  rintro settings _ E₂ F₂ rfl hag₂ hD₂ hR₂
  refine Previews.seam hmode Likeness.alike_log hD₂ hR₂ hag₂ ?_
  intro _ _ E₃ F₃ _ hag₃ hD₃ hR₃
  refine Previews.withDirectory hD₃ hR₃ hag₃ ?_
  intro scratch scratch' E₄ F₄ hpath hag₄ hD₄ hR₄
  exact preview_installIn hverbose
    ⟨.forUser (a.targetOs w.os) w.administrator, a.installConfig root,
      Run.withInterpreter settings a.python, scratch⟩ hpath hag₄ hpython' hD₄ hR₄

/-! ## §6. On a recorder. -/

/-- Every answer that reaches the observer is the host's own. -/
theorem answer_observe {σ : Type} {host : Host σ} {w : Surroundings}
    {a : CommandLine.Arguments} {s : σ} {e : Exchange} (h : e ∈ (Run.observe host w a s).2) :
    ∃ t, e.answer = (host e.request t).1 := by
  unfold Run.observe at h
  rw [perform_layer_observed, List.nil_append] at h
  obtain ⟨⟨q, z⟩, hd, he⟩ := List.mem_flatMap.mp h
  obtain ⟨t, ht⟩ := answer_account hd
  unfold Run.layer at ht
  cases hdry : a.dryRun with
  | true =>
      rw [hdry] at ht he
      cases q with
      | run c =>
          rw [List.mem_singleton.mp he]
          exact ⟨t, rfl⟩
      | fetch url =>
          rw [List.mem_singleton.mp he]
          exact ⟨t, rfl⟩
      | _ =>
          rw [List.mem_singleton.mp he]
          exact ⟨t, ht⟩
  | false =>
      rw [hdry] at ht he
      cases q with
      | run c =>
          rcases List.mem_cons.mp he with rfl | he
          · exact ⟨t, rfl⟩
          · rw [List.mem_singleton.mp he]
            exact ⟨_, ht⟩
      | _ =>
          rw [List.mem_singleton.mp he]
          exact ⟨t, ht⟩

/-- A developer's run in verbose mode. -/
def verboseArguments : CommandLine.Arguments where
  environment := .developer
  verbose := true

/-- A dry run on a recorder shows all that a developer's run does there. -/
theorem observe_previews_recorder :
    Previews {} (Session.output { directory := ⟨"/srv/app"⟩ } verboseArguments)
      (Run.observe Recorder.host { directory := ⟨"/srv/app"⟩ }
        { verboseArguments with dryRun := true } recentPython)
      (Run.observe Recorder.host { directory := ⟨"/srv/app"⟩ }
        { verboseArguments with dryRun := false } recentPython) := by
  have hsilent : (Run.observe Recorder.host { directory := ⟨"/srv/app"⟩ }
      { verboseArguments with dryRun := true } recentPython).2.captured = [] := by decide +kernel
  have hfine : (Run.observe Recorder.host { directory := ⟨"/srv/app"⟩ }
      { verboseArguments with dryRun := false } recentPython).2.filterMap
        Exchange.failure? = [] := by decide +kernel
  have hok : (Run.observe Recorder.host { directory := ⟨"/srv/app"⟩ }
      { verboseArguments with dryRun := false } recentPython).1.isOk = true := by decide +kernel
  rw [List.filterMap_eq_nil_iff] at hfine
  refine observe_previews {} Recorder.host Recorder.host _ verboseArguments _ _ rfl
    ?_ ?_ ⟨?_, ?_⟩ ?_
  · exact (oneGround_recorder {}).sameGround (fun e he => answer_observe he) fun f hf =>
      answer_observe hf
  · intro z z' hz
    have hno := List.filterMap_eq_nil_iff.mp hsilent _ hz
    cases hno
  · intro c x hx
    have h := hfine _ hx
    cases x with
    | ok u => rfl
    | error e => cases h
  · intro url x hx
    have h := hfine _ hx
    cases x with
    | ok body => exact ⟨body, rfl⟩
    | error e => cases h
  · intro text htext
    rw [htext] at hok
    cases hok

end Provision
