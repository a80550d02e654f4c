/-
  Provision.Proofs.HomebrewAnswer
  ───────────────────────────────
  **WHEN HOMEBREW COUNTS AS MISSING.**

  Before it installs the JDK on macOS, a run asks Homebrew for its version.
  The version is the rest of the line after the leftmost place where the name
  and a blank occur, on standard output or, if they occur nowhere there, on
  standard error.  Where there is no version, a placeholder is handed on in its
  place, and the step compares what it gets with the placeholder.

  So Homebrew counts as missing where it cannot be started, fails or does not
  write its name.  It also counts as missing where it writes the placeholder
  itself, because the two are the same text.  For every other answer the JDK is
  installed.

  Main results:

    `firstGroup?_eq_some_iff`    the version that is read from an answer
    `jdk_asks_homebrew`          what the step for the JDK does with each answer
    `homebrew_taken_for_missing` an answer that is taken for no answer
-/
import Provision.Proofs.PresentTools
import Provision.Proofs.VersionSearch

namespace Provision

open Text Procedure

/-! ## §1. The leftmost occurrence of a word. -/

namespace Text

/-- What follows the leftmost occurrence of the word in the text. -/
def FollowsFirst (word cs after : List Char) : Prop :=
  ∃ before, cs = before ++ (word ++ after)
    ∧ ∀ before' after', cs = before' ++ (word ++ after') → before.length ≤ before'.length

theorem behindWord_eq_some_iff {word rest after : List Char} :
    (if word.isPrefixOf rest then some (rest.drop word.length) else none) = some after ↔
      rest = word ++ after := by
  constructor
  · intro h
    split at h
    case isFalse => cases h
    case isTrue hprefix =>
      obtain ⟨behind, rfl⟩ := List.isPrefixOf_iff_prefix.mp hprefix
      rw [List.drop_left] at h
      rw [Option.some.inj h]
  · rintro rfl
    rw [if_pos (List.isPrefixOf_iff_prefix.mpr (List.prefix_append word after)), List.drop_left]

/-- **The search for a word finds its leftmost occurrence.** -/
theorem afterFirst?_eq_some_iff {word cs after : List Char} :
    afterFirst? word cs = some after ↔ FollowsFirst word cs after := by
  rw [afterFirst?_eq_leftmost, leftmost_eq_some_iff]
  constructor
  · rintro ⟨before, rest, heq, hrest, hfirst⟩
    refine ⟨before, by rw [heq, behindWord_eq_some_iff.mp hrest], fun before' after' heq' => ?_⟩
    apply Nat.le_of_not_lt
    intro hlt
    have hnone := hfirst before' _ heq' hlt
    rw [behindWord_eq_some_iff.mpr rfl] at hnone
    cases hnone
  · rintro ⟨before, heq, hfirst⟩
    refine ⟨before, _, heq, behindWord_eq_some_iff.mpr rfl, fun before' rest' heq' hlt => ?_⟩
    apply Option.eq_none_iff_forall_ne_some.mpr
    intro after' hsome
    rw [behindWord_eq_some_iff.mp hsome] at heq'
    exact absurd hlt (Nat.not_lt.mpr (hfirst before' after' heq'))

end Text

/-! ## §2. The version in the output. -/

/-- The name of Homebrew and the blank behind it. -/
abbrev homebrewName : String := "Homebrew "

/-- The rest of the line that the text begins with. -/
def restOfLine (cs : List Char) : List Char := cs.takeWhile (· != '\n')

namespace Captured

/-- The name occurs in the output. -/
def NamesHomebrew (r : Captured) : Prop :=
  holds r.stdout homebrewName = true ∨ holds r.stderr homebrewName = true

/-- The rest of the line after the leftmost occurrence of the name, without
blanks at its ends; standard error counts where standard output has no name. -/
def ShowsHomebrew (r : Captured) (version : String) : Prop :=
  ∃ text after, ((holds r.stdout homebrewName = true ∧ text = r.stdout)
      ∨ (holds r.stdout homebrewName = false ∧ text = r.stderr))
    ∧ FollowsFirst homebrewName.toList text.toList after
    ∧ version = trimmed (String.ofList (restOfLine after))

end Captured

namespace ToolVersion

open Pattern

theorem holds_notNewline : CharSet.notNewline.holds = (· != '\n') := by
  funext c
  show (!(CharSet.single '\n').holds c) = _
  rw [holds_single]
  rfl

/-- The rest of the line behind the name, at a place that begins with the name. -/
def homebrewAt? (cs : List Char) : Option (List Char) :=
  if homebrewName.toList.isPrefixOf cs then
    some (restOfLine (cs.drop homebrewName.toList.length))
  else none

theorem ends_homebrew (before : Option Char) (cs : List Char) :
    ((homebrewPattern.ends ⟨before, cs, []⟩).head?).map Place.groups
      = (homebrewAt? cs).map fun line => [(1, line)] := by
  refine groups_behind_word (f := fun cs => some (restOfLine cs)) (fun s => ?_) (fun cs x hx => ?_)
    _ before cs
  · obtain ⟨others, hothers, -⟩ := ends_run .notNewline s
    rw [hothers, holds_notNewline]
    rfl
  · rw [← Option.some.inj hx]
    exact List.takeWhile_prefix _

theorem leftmost_homebrewAt? (cs : List Char) :
    leftmost homebrewAt? cs = (afterFirst? homebrewName.toList cs).map restOfLine := by
  rw [afterFirst?_eq_leftmost, ← leftmost_map]
  congr 1
  funext rest
  unfold homebrewAt?
  split <;> rfl

/-- What is found in the output: the rest of the line behind the name. -/
theorem firstGroup?_homebrew (r : Captured) :
    r.firstGroup? homebrewPattern
      = ((afterFirst? homebrewName.toList r.stdout.toList).or
          (afterFirst? homebrewName.toList r.stderr.toList)).map
            fun after => trimmed (String.ofList (restOfLine after)) := by
  rw [Captured.firstGroup?_eq ends_homebrew, leftmost_homebrewAt?, leftmost_homebrewAt?,
    ← Option.map_or, Option.map_map]
  rfl

/-- The name does not occur where nothing follows its first occurrence. -/
theorem holds_eq_false_iff {text word : String} :
    holds text word = false ↔ afterFirst? word.toList text.toList = none := by
  unfold holds
  rw [occurs_iff_afterFirst?, Option.isSome_eq_false_iff, Option.isNone_iff_eq_none]

theorem holds_of_afterFirst? {text word : String} {after : List Char}
    (h : afterFirst? word.toList text.toList = some after) : holds text word = true := by
  unfold holds
  rw [occurs_iff_afterFirst?, h]
  rfl

/-- **The version that is read from an answer.** -/
theorem firstGroup?_eq_some_iff {r : Captured} {version : String} :
    r.firstGroup? homebrewPattern = some version ↔ r.ShowsHomebrew version := by
  rw [firstGroup?_homebrew, Option.map_eq_some_iff]
  unfold Captured.ShowsHomebrew
  cases hout : afterFirst? homebrewName.toList r.stdout.toList with
  | some after =>
      rw [Option.some_or]
      constructor
      · rintro ⟨_, ⟨⟩, rfl⟩
        exact ⟨r.stdout, after, .inl ⟨holds_of_afterFirst? hout, rfl⟩,
          afterFirst?_eq_some_iff.mp hout, rfl⟩
      · rintro ⟨text, after', ⟨-, rfl⟩ | ⟨hnone, -⟩, hfirst, rfl⟩
        · rw [afterFirst?_eq_some_iff.mpr hfirst] at hout
          exact ⟨after', by rw [Option.some.inj hout], rfl⟩
        · rw [holds_of_afterFirst? hout] at hnone
          cases hnone
  | none =>
      rw [Option.none_or]
      constructor
      · rintro ⟨after, herr, rfl⟩
        exact ⟨r.stderr, after, .inr ⟨holds_eq_false_iff.mpr hout, rfl⟩,
          afterFirst?_eq_some_iff.mp herr, rfl⟩
      · rintro ⟨text, after', ⟨hsome, -⟩ | ⟨-, rfl⟩, hfirst, rfl⟩
        · rw [holds_eq_false_iff.mpr hout] at hsome
          cases hsome
        · exact ⟨after', afterFirst?_eq_some_iff.mpr hfirst, rfl⟩

/-- There is a version where there is the name. -/
theorem firstGroup?_eq_none_iff {r : Captured} :
    r.firstGroup? homebrewPattern = none ↔ ¬ r.NamesHomebrew := by
  rw [firstGroup?_homebrew, Option.map_eq_none_iff, Option.or_eq_none_iff, ← holds_eq_false_iff,
    ← holds_eq_false_iff]
  unfold Captured.NamesHomebrew
  rw [not_or, Bool.not_eq_true, Bool.not_eq_true]

/-- Nothing is found where Homebrew does not start, fails or writes no name. -/
theorem found_homebrew_eq_none {answer : Except Failure Captured}
    (h : ¬ ∃ r, answer = .ok r ∧ r.succeeded = true ∧ r.NamesHomebrew) :
    found homebrewPattern answer = none := by
  cases answer with
  | error e => rfl
  | ok r =>
      rw [found]
      split
      · exact firstGroup?_eq_none_iff.mpr fun hnames => h ⟨r, rfl, ‹_›, hnames⟩
      · rfl

/-- The version is read from the answer to one question; the placeholder stands
for no version. -/
theorem leads_homebrew {E : Account} {r : Except Failure String} (h : homebrew.Leads E r) :
    ∃ (answer : Except Failure Captured) (F : Account),
      E = ⟨.capture (question "brew"), answer⟩ :: F
        ∧ r = .ok ((found homebrewPattern answer).getD notAvailable) ∧ F.runnerCalls = [] := by
  rcases leads_bind.mp h with ⟨e, hask, -⟩ | ⟨version, E₁, E₂, rfl, hask, hend⟩
  · obtain ⟨_, _, _, hresult, _⟩ := leads_ask_version hask
    cases hresult
  · obtain ⟨answer, F, rfl, hresult, hF⟩ := leads_ask_version hask
    obtain rfl := Except.ok.inj hresult
    obtain ⟨rfl, rfl⟩ := leads_done.mp hend
    exact ⟨answer, F, by rw [List.append_nil], rfl, Account.runnerCalls_of_quiet hF⟩

/-- The version that is handed on, on any host. -/
theorem perform_homebrew {σ : Type} (host : Host σ) (s : σ) :
    (homebrew.perform host s).1
      = .ok ((found homebrewPattern (host (.capture (question "brew")) s).1).getD notAvailable) := by
  obtain ⟨answer, F, heq, hresult, -⟩ := leads_homebrew (leads_account host homebrew s)
  have hanswer : answer = (host (.capture (question "brew")) s).1 :=
    head_account (p := homebrew) (by rw [heq]; rfl)
  rw [hresult, hanswer]

end ToolVersion

/-! ## §3. The step for the JDK. -/

namespace Prerequisites

open ToolVersion

/-- The failure where Homebrew is missing. -/
def brewMissing : Failure :=
  .missingPrerequisite "brew"
    "Homebrew not installed. Install it from https://brew.sh and re-run."

/-- The command that installs the pinned JDK. -/
def installJdk (ctx : Context) : Command :=
  ⟨"brew", ["install", "openjdk@" ++ toString ctx.settings.jdkVersion.toNat], none⟩

/-- **The comparison with the placeholder** decides between a failure without a
command and one command. -/
theorem leads_brewJdk {ctx : Context} {E : Account} {r : Except Failure Unit}
    (h : (brewJdk ctx).Leads E r) :
    ∃ (answer : Except Failure Captured) (F : Account),
      E = ⟨.capture (question "brew"), answer⟩ :: F
        ∧ ((found homebrewPattern answer).getD notAvailable = notAvailable →
            r = .error brewMissing ∧ F.runnerCalls = [])
        ∧ ((found homebrewPattern answer).getD notAvailable ≠ notAvailable →
            F.runnerCalls = [.run (installJdk ctx)]) := by
  rcases leads_bind.mp h with ⟨e, hversion, -⟩ | ⟨version, E₁, E₂, rfl, hversion, hrest⟩
  · obtain ⟨_, _, _, hresult, _⟩ := leads_homebrew hversion
    cases hresult
  obtain ⟨answer, F, rfl, hresult, hF⟩ := leads_homebrew hversion
  obtain rfl := Except.ok.inj hresult
  refine ⟨answer, F ++ E₂, rfl, fun hmissing => ?_, fun hthere => ?_⟩
  · rw [if_pos (beq_iff_eq.mpr hmissing)] at hrest
    obtain ⟨rfl, rfl⟩ := leads_fail.mp hrest
    rw [List.append_nil]
    exact ⟨rfl, hF⟩
  · rw [if_neg (fun heq => hthere (beq_iff_eq.mp heq))] at hrest
    -- A line in the log, a notice, and then the one command.
    obtain ⟨_, G, rfl, hstep⟩ := leads_ask.mp hrest
    obtain ⟨_, H, rfl, hrun⟩ := leads_ask.mp hstep
    obtain ⟨_, I, rfl, hend⟩ := leads_ask.mp hrun
    obtain ⟨rfl, -⟩ := leads_ofExcept.mp hend
    rw [Account.runnerCalls_append, hF]
    rfl

/-- Where the JDK has to be installed, the step goes on with Homebrew. -/
theorem leads_installJdkFormula {ctx : Context} {E : Account} {r : Except Failure Unit}
    (h : (installJdkFormula ctx).Leads E r)
    (hneeded : ctx.config.force = true ∨ E.head? = some ⟨.locate "javac", none⟩) :
    ∃ E₁ E₂ : Account, E = E₁ ++ E₂ ∧ E₁.runnerCalls = [] ∧ (brewJdk ctx).Leads E₂ r := by
  rw [installJdkFormula_eq, Context.whenNeeded_eq] at h
  rcases leads_bind.mp h with ⟨e, hlook, -⟩ | ⟨needed, E₁, E₂, rfl, hlook, hrest⟩
  · obtain ⟨_, _, _, hresult⟩ := leads_needsInstall_found hlook
    cases hresult
  obtain ⟨found, hhead, hquiet, hresult⟩ := leads_needsInstall_found hlook
  have htrue : needed = true := by
    rw [Except.ok.inj hresult]
    rcases hneeded with hforce | hmissing
    · rw [hforce, Bool.true_or]
    · rw [List.head?_append, hhead] at hmissing
      cases hmissing
      exact Bool.or_true _
  subst htrue
  exact ⟨E₁, E₂, rfl, Account.runnerCalls_of_quiet hquiet, hrest⟩

/-- The calls of the step on macOS, by what is found in the answer. -/
theorem leads_ensureJdk {ctx : Context} {E : Account} {r : Except Failure Unit}
    (hos : ctx.target.os = .macOS) (h : (ensure ctx .javaCompiler).Leads E r)
    (hneeded : ctx.config.force = true ∨ E.head? = some ⟨.locate "javac", none⟩) :
    ∃ answer : Except Failure Captured, ⟨.capture (question "brew"), answer⟩ ∈ E
      ∧ ((found homebrewPattern answer).getD notAvailable = notAvailable →
          r = .error brewMissing ∧ E.runnerCalls = [.capture (question "brew")])
      ∧ ((found homebrewPattern answer).getD notAvailable ≠ notAvailable →
          E.runnerCalls = [.capture (question "brew"), .run (installJdk ctx)]) := by
  have hformula : (installJdkFormula ctx).Leads E r := by
    unfold ensure at h
    rw [hos] at h
    exact h
  obtain ⟨E₁, E₂, rfl, hE₁, hbrew⟩ := leads_installJdkFormula hformula hneeded
  obtain ⟨answer, F, rfl, hmissing, hthere⟩ := leads_brewJdk hbrew
  refine ⟨answer, List.mem_append_right _ List.mem_cons_self, fun hplaceholder => ?_,
    fun hversion => ?_⟩
  · obtain ⟨hresult, hF⟩ := hmissing hplaceholder
    rw [Account.runnerCalls_append, hE₁, Account.runnerCalls_cons, hF]
    exact ⟨hresult, rfl⟩
  · rw [Account.runnerCalls_append, hE₁, Account.runnerCalls_cons, hthere hversion]
    rfl

end Prerequisites

/-! ## §4. Any answer. -/

open ToolVersion Prerequisites in
/-- **What the step for the JDK does with each answer**, on macOS, where the
compiler is missing or installed again.  Homebrew counts as missing where it
gives no version; where it gives one, the JDK is installed, unless the version
is the text of the placeholder. -/
theorem jdk_asks_homebrew {σ : Type} (host : Host σ) (ctx : Context) (s : σ)
    (hos : ctx.target.os = .macOS)
    (hneeded : ctx.config.force = true ∨ (host (.locate "javac") s).1 = none) :
    let step := ensure ctx .javaCompiler
    let result := (step.perform host s).1
    let calls := (step.account host s).runnerCalls
    let asked : Request := .capture (question "brew")
    ∃ answer : Except Failure Captured, ⟨.capture (question "brew"), answer⟩ ∈ step.account host s
      ∧ ((¬ ∃ r, answer = .ok r ∧ r.succeeded = true ∧ r.NamesHomebrew) →
          result = .error brewMissing ∧ calls = [asked])
      ∧ ∀ r, answer = .ok r → r.succeeded = true → r.NamesHomebrew →
          ∃ version, r.ShowsHomebrew version
            ∧ (∀ t, (host (.capture (question "brew")) t).1 = answer →
                (homebrew.perform host t).1 = .ok version)
            ∧ (version ≠ "N/A" → calls = [asked, .run (installJdk ctx)])
            ∧ (version = "N/A" → result = .error brewMissing ∧ calls = [asked]) := by
  intro step result calls asked
  -- The look is the first request, so that it is answered in the first state.
  have hfirst : ctx.config.force = true
      ∨ (step.account host s).head? = some ⟨.locate "javac", none⟩ := by
    refine hneeded.imp_right fun hmissing => ?_
    show ((ensure ctx .javaCompiler).account host s).head? = _
    unfold ensure
    rw [hos, ← hmissing]
    rfl
  obtain ⟨answer, hmem, hrefused, hgoes⟩ := leads_ensureJdk hos (leads_account host step s) hfirst
  refine ⟨answer, hmem, fun hnone => hrefused ?_, ?_⟩
  · rw [found_homebrew_eq_none hnone]
    rfl
  · rintro r rfl hsucceeded hnames
    obtain ⟨version, hversion⟩ := Option.ne_none_iff_exists'.mp fun hnone =>
      firstGroup?_eq_none_iff.mp hnone hnames
    have hfound : found homebrewPattern (.ok r) = some version := by
      rw [found, if_pos hsucceeded]
      exact hversion
    rw [hfound] at hrefused hgoes
    refine ⟨version, firstGroup?_eq_some_iff.mp hversion, fun t ht => ?_, hgoes, hrefused⟩
    rw [perform_homebrew, ht, hfound]
    rfl

/-- A host on which Homebrew prints a text. -/
def brewPrints (text : String) : Script where
  tools := [("brew", { stdout := text })]

/-- A run for macOS. -/
def macContext : Context := { (default : Context) with target := ⟨.macOS, none⟩ }

open ToolVersion Prerequisites in
/-- A Homebrew that tells its version installs the JDK. -/
theorem jdk_asks_homebrew_version :
    ((ensure macContext .javaCompiler).account (brewPrints "Homebrew 4.2.5\n").host {}).runnerCalls
      = [.capture (question "brew"), .run (installJdk macContext)] := by
  obtain ⟨answer, hmem, -, hversions⟩ :=
    jdk_asks_homebrew (brewPrints "Homebrew 4.2.5\n").host macContext {} rfl (.inr rfl)
  obtain ⟨t, ht⟩ := answer_account hmem
  obtain ⟨version, hshows, -, hgoes, -⟩ := hversions (.success "Homebrew 4.2.5\n" "") ht rfl
    (.inl (by decide))
  have hread : (Captured.success "Homebrew 4.2.5\n" "").firstGroup? homebrewPattern
      = some "4.2.5" := by decide +kernel
  rw [firstGroup?_eq_some_iff.mpr hshows, Option.some.injEq] at hread
  exact hgoes (by rw [hread]; decide)

open ToolVersion Prerequisites in
/-- **An answer that is taken for no answer**: Homebrew starts, succeeds and
writes its name, but the version that it gives is the text of the placeholder. -/
theorem homebrew_taken_for_missing :
    let host := (brewPrints "Homebrew N/A\n").host
    let step := ensure macContext .javaCompiler
    (macContext.target.os = .macOS ∧ (host (.locate "javac") {}).1 = none)
      ∧ (∃ r, (∀ t, (host (.capture (question "brew")) t).1 = .ok r) ∧ r.succeeded = true
        ∧ r.NamesHomebrew)
      ∧ (step.perform host {}).1 = .error brewMissing
      ∧ (step.account host {}).runnerCalls = [.capture (question "brew")] := by
  intro host step
  obtain ⟨answer, hmem, hrefused, -⟩ :=
    leads_ensureJdk rfl (leads_account host (ensure macContext .javaCompiler) {}) (.inr rfl)
  obtain ⟨t, ht⟩ := answer_account hmem
  obtain rfl : answer = .ok (.success "Homebrew N/A\n" "") := ht
  have hread : found homebrewPattern (.ok (.success "Homebrew N/A\n" "")) = some "N/A" := by
    decide +kernel
  refine ⟨⟨rfl, rfl⟩, ⟨.success "Homebrew N/A\n" "", fun _ => rfl, rfl, .inl (by decide)⟩, ?_⟩
  exact hrefused (by rw [hread]; rfl)

end Provision
