/-
  Provision.Proofs.GivenFlags
  ───────────────────────────
  **A FLAG THAT IS GIVEN IS SET.**

  Reading a command line sets one field after another and never takes a flag
  back.  So if the reading succeeds, every flag among the words is set in the
  arguments, wherever it stands.

  Main results:

    `Keeps.bind`       keeping the flags is closed under sequences
    `keeps_words`      reading words keeps the flags so far
    `read_flag`        a flag among the words is set in the end
-/
import Provision.CommandLine.Reading

namespace Provision.CommandLine

/-- Is the flag set? -/
def Arguments.isSet (a : Arguments) : Flag → Bool
  | .nightly => a.nightly
  | .force => a.force
  | .dryRun => a.dryRun
  | .verbose => a.verbose
  | .quiet => a.quiet
  | .noColor => a.noColor
  | .debug => a.debug

/-- Giving a flag sets it. -/
theorem Arguments.isSet_withFlag (a : Arguments) (f : Flag) : (a.withFlag f).isSet f = true := by
  cases f <;> rfl

/-- Giving another flag takes nothing back. -/
theorem Arguments.isSet_withFlag_of {a : Arguments} {f : Flag} (h : a.isSet f = true)
    (g : Flag) : (a.withFlag g).isSet f = true := by
  cases g <;> cases f <;> first | exact h | rfl

/-- A value changes no flag, whatever parameter it is for. -/
theorem Arguments.isSet_withValue? {a b : Arguments} {text : String} {p : Parameter}
    (h : a.withValue? text p = some b) (f : Flag) : b.isSet f = a.isSet f := by
  unfold withValue? at h
  cases p with
  | python =>
      injection h with h
      subst h
      cases f <;> rfl
  | _ =>
      obtain ⟨x, -, rfl⟩ := Option.map_eq_some_iff.mp h
      cases f <;> rfl

/-- A result of a sequence is reached through a result of its first part. -/
theorem exists_ok_of_bind {ε α β : Type} {x : Except ε α} {k : α → Except ε β} {b : β}
    (h : (x >>= k) = .ok b) : ∃ a, x = .ok a ∧ k a = .ok b := by
  cases x with
  | error e => cases h
  | ok a => exact ⟨a, rfl, h⟩

namespace Reading

/-! ## §1. Keeping the flags. -/

/-- If the reading goes on, then with every flag that was set. -/
def Keeps (f : Flag) (r : Reading) (x : Except Refusal Reading) : Prop :=
  ∀ s, x = .ok s → r.arguments.isSet f = true → s.arguments.isSet f = true

variable {f : Flag}

/-- Going on unchanged keeps every flag. -/
theorem keeps_ok (r : Reading) : Keeps f r (.ok r) := by
  intro s h hr
  injection h with h
  exact h ▸ hr

/-- A refusal keeps every flag, for there is nothing after it. -/
theorem keeps_error (r : Reading) (e : Refusal) : Keeps f r (.error e) := by
  intro s h
  cases h

/-- **Keeping the flags is closed under sequences.** -/
theorem Keeps.bind {r : Reading} {x : Except Refusal Reading}
    {k : Reading → Except Refusal Reading} (hx : Keeps f r x) (hk : ∀ s, Keeps f s (k s)) :
    Keeps f r (x >>= k) := by
  intro t h hr
  cases x with
  | error e => cases h
  | ok s => exact hk s t h (hx s rfl hr)

/-- Noting an option refuses a second one of its name and changes no argument. -/
theorem keeps_note (r : Reading) (o : Opt) : Keeps f r (r.note o) := by
  unfold note
  split
  · exact keeps_error r _
  · intro s h hr
    injection h with h
    subst h
    exact hr

/-- A value that is accepted changes its own argument only. -/
theorem keeps_accept (r : Reading) (p : Parameter) (text : String) :
    Keeps f r (r.accept p text) := by
  unfold accept
  split
  · rename_i a ha
    intro s h hr
    injection h with h
    subst h
    show a.isSet f = true
    rw [Arguments.isSet_withValue? ha]
    exact hr
  · exact keeps_error r _

/-- Settling looks at the value that the last parameter waits for, and at no flag. -/
theorem keeps_settle (r : Reading) : Keeps f r r.settle := by
  unfold settle
  split
  · exact keeps_ok r
  · exact keeps_error r _
  · exact Keeps.bind (keeps_note { r with waiting := none } _) fun s => keeps_accept s _ _

/-- A flag is added to those that were set. -/
theorem keeps_giveFlag (r : Reading) (g : Flag) : Keeps f r (r.giveFlag g) := by
  refine (keeps_settle r).bind fun s => (keeps_note s _).bind fun t => ?_
  intro u h ht
  injection h with h
  subst h
  exact Arguments.isSet_withFlag_of ht g

theorem keeps_giveValue (r : Reading) (p : Parameter) (text : String) :
    Keeps f r (r.giveValue p text) :=
  (keeps_settle r).bind fun s => (keeps_note s _).bind fun t => keeps_accept t p text

theorem keeps_awaitValue (r : Reading) (p : Parameter) : Keeps f r (r.awaitValue p) := by
  refine (keeps_settle r).bind fun s => ?_
  intro t h hs
  injection h with h
  subst h
  exact hs

theorem keeps_answer (r : Reading) (e : Refusal) : Keeps f r (r.answer e) :=
  (keeps_settle r).bind fun s => keeps_error s e

/-- A long option is a flag, a parameter, or a question for help; each of them
keeps the flags. -/
theorem keeps_long (r : Reading) (name : String) (value : Option String) :
    Keeps f r (r.long name value) := by
  -- One case for each kind of option, with a value behind `=` and without.
  unfold long
  split
  · exact keeps_error r _
  · exact keeps_giveValue r _ _
  · exact keeps_awaitValue r _
  · exact keeps_error r _
  · exact keeps_giveFlag r _
  · exact keeps_answer r _
  · exact keeps_answer r _

/-- Short options keep the flags, though a word may hold many of them. -/
theorem keeps_letters (cs : List Char) : ∀ r : Reading, Keeps f r (letters cs r) := by
  induction cs with
  | nil => exact keeps_ok
  | cons c cs ih =>
      intro r
      unfold letters
      split
      · exact keeps_error r _
      · exact (keeps_giveFlag r _).bind ih
      · exact keeps_answer r _
      · exact keeps_answer r _
      · -- A parameter takes the rest of its word as the value, or waits for the next
        -- word.
        split
        · exact keeps_awaitValue r _
        · exact keeps_giveValue r _ _
        · exact keeps_giveValue r _ _

/-- A word that is no option is a value that was waited for, or one too many. -/
theorem keeps_plain (r : Reading) (text : String) : Keeps f r (r.plain text) := by
  unfold plain
  split
  · intro s h hr
    injection h with h
    subst h
    exact hr
  · exact keeps_error r _

/-- **Reading words keeps the flags so far.** -/
theorem keeps_words (ws : List String) : ∀ r : Reading, Keeps f r (words ws r) := by
  induction ws with
  | nil => exact keeps_settle
  | cons w ws ih =>
      intro r
      unfold words
      split
      -- Behind a separator there are either no words or too many.
      · cases ws with
        | nil => exact keeps_settle r
        | cons v ws => exact keeps_error r _
      · exact (keeps_long r _ _).bind ih
      · exact (keeps_letters _ r).bind ih
      · exact (keeps_plain r _).bind ih

/-- The variables of the environment fill parameters and touch no flag. -/
theorem keeps_fallBack (valueOf : String → Option String) (ps : List Parameter) :
    ∀ r : Reading, Keeps f r (ps.foldlM (fallBack valueOf) r) := by
  induction ps with
  | nil => exact keeps_ok
  | cons p ps ih =>
      intro r
      rw [List.foldlM_cons]
      refine Keeps.bind ?_ ih
      unfold fallBack
      split
      · exact keeps_ok r
      · split
        · exact keeps_ok r
        · exact keeps_accept r p _

/-! ## §2. A flag among the words. -/

/-- Two hyphens and the name of a flag make a long option without a value. -/
theorem ofText_flag (f : Flag) : Word.ofText ("--" ++ f.name) = .long f.name none := by
  cases f <;> decide

/-- When a flag could be given, it is set. -/
theorem isSet_giveFlag {r s : Reading} (h : r.giveFlag f = .ok s) :
    s.arguments.isSet f = true := by
  obtain ⟨r₁, -, h₁⟩ := exists_ok_of_bind h
  obtain ⟨r₂, -, h₂⟩ := exists_ok_of_bind h₁
  injection h₂ with h₂
  subst h₂
  exact Arguments.isSet_withFlag r₂.arguments f

/-- **A flag among the words is set when they have been read.** -/
theorem isSet_words {ws : List String} (hmem : "--" ++ f.name ∈ ws) :
    ∀ {r s : Reading}, words ws r = .ok s → s.arguments.isSet f = true := by
  induction ws with
  | nil => cases hmem
  | cons w ws ih =>
      intro r s h
      unfold words at h
      rcases List.mem_cons.mp hmem with rfl | hmem
      · -- The word itself sets the flag, and the words after it keep it.
        rw [ofText_flag] at h
        obtain ⟨r₁, hlong, hrest⟩ := exists_ok_of_bind h
        refine keeps_words ws r₁ s hrest ?_
        unfold long at hlong
        rw [show f.name = (Opt.flag f).name from rfl, Opt.ofName?_name] at hlong
        exact isSet_giveFlag hlong
      · -- Nothing may follow a separator, so that the flag stands before it.
        split at h
        · cases ws with
          | nil => cases hmem
          | cons v ws => cases h
        · obtain ⟨r₁, -, hrest⟩ := exists_ok_of_bind h
          exact ih hmem hrest
        · obtain ⟨r₁, -, hrest⟩ := exists_ok_of_bind h
          exact ih hmem hrest
        · obtain ⟨r₁, -, hrest⟩ := exists_ok_of_bind h
          exact ih hmem hrest

end Reading

/-- **A flag among the words is set in the end.** -/
theorem read_flag {valueOf : String → Option String} {words : List String} {a : Arguments}
    {f : Flag} (h : read valueOf words = .ok a) (hmem : "--" ++ f.name ∈ words) :
    a.isSet f = true := by
  obtain ⟨r, hwords, hrest⟩ := exists_ok_of_bind h
  obtain ⟨s, hfall, hrest⟩ := exists_ok_of_bind hrest
  obtain ⟨u, -, hdone⟩ := exists_ok_of_bind hrest
  injection hdone with hdone
  subst hdone
  exact Reading.keeps_fallBack valueOf Parameter.withVariable r s hfall
    (Reading.isSet_words hmem hwords)

end Provision.CommandLine
