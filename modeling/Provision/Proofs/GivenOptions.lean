/-
  Provision.Proofs.GivenOptions
  ─────────────────────────────
  **OPTIONS AS THEY ARE GIVEN.**

  Arguments are written as words in many ways: the options stand in any order,
  and a parameter has its value in the same word or in the next one.  Reading
  takes one option after the other, each from its own words, and what all of
  them set is what was written.

  Main results:

    `words_given`        an option is read from its own words
    `words_options`      options are read one after the other
    `options_renders`    what is written sets every field
    `foldlM_addTo?_insert`   an option may be put in at any place
-/
import Provision.Proofs.ArgumentFields

namespace Provision.CommandLine

/-! ## §1. Options as words. -/

/-- An option as it is given. -/
inductive Given where
  | flag (f : Flag)
  /-- A parameter with its value after an equals sign. -/
  | joined (p : Parameter) (text : String)
  /-- A parameter with its value in the next word. -/
  | apart (p : Parameter) (text : String)
  deriving DecidableEq, Repr

namespace Given

/-- The words of an option. -/
def words : Given → List String
  | .flag f => ["--" ++ f.name]
  | .joined p text => ["--" ++ p.name ++ "=" ++ text]
  | .apart p text => ["--" ++ p.name, text]

/-- The option itself. -/
def opt : Given → Opt
  | .flag f => .flag f
  | .joined p _ => .parameter p
  | .apart p _ => .parameter p

/-- The parameter with its value. -/
def value? : Given → Option (Parameter × String)
  | .flag _ => none
  | .joined p text => some (p, text)
  | .apart p text => some (p, text)

/-- A value in a word of its own does not begin with a hyphen. -/
def Fair : Given → Prop
  | .apart _ text => text.toList.head? ≠ some '-'
  | _ => True

/-- The arguments with the option, if its value is accepted. -/
def addTo? (a : Arguments) : Given → Option Arguments
  | .flag f => some (a.withFlag f)
  | .joined p text => a.withValue? text p
  | .apart p text => a.withValue? text p

end Given

/-- What has a value is a parameter, and adding it is taking its value. -/
theorem Given.of_value? {g : Given} {p : Parameter} {text : String}
    (h : g.value? = some (p, text)) :
    g.opt = .parameter p ∧ ∀ a, g.addTo? a = a.withValue? text p := by
  cases g with
  | flag f => cases h
  | joined q t => cases h; exact ⟨rfl, fun _ => rfl⟩
  | apart q t => cases h; exact ⟨rfl, fun _ => rfl⟩

/-- The options say just what the arguments hold, each of them once; only the
default environment may be left out. -/
structure Renders (a : Arguments) (L : List Given) : Prop where
  once : (L.map Given.opt).Nodup
  fair : ∀ g ∈ L, g.Fair
  flags : ∀ f, Given.flag f ∈ L ↔ a.isSet f = true
  sound : ∀ g ∈ L, ∀ p text, g.value? = some (p, text) → a.valueOf? p = some text
  complete : ∀ p text, a.valueOf? p = some text →
    (∃ g ∈ L, g.value? = some (p, text)) ∨ (p = .environment ∧ a.environment = .production)

/-! ## §2. The words of one option. -/

/-- A text is cut at its first equals sign, so the value may hold further ones. -/
theorem cutAtEquals_some {cs value : List Char} (h : '=' ∉ cs) :
    cutAtEquals (cs ++ '=' :: value) = (String.ofList cs, some (String.ofList value)) := by
  have hall : ∀ c ∈ cs, (c != '=') = true := by
    intro c hc
    rw [bne_iff_ne]
    intro heq
    exact h (heq ▸ hc)
  unfold cutAtEquals
  rw [List.dropWhile_append_of_pos hall, List.takeWhile_append_of_pos hall]
  simp only [List.dropWhile_cons, List.takeWhile_cons, bne_self_eq_false, Bool.false_eq_true,
    if_false, List.append_nil]

/-- Two hyphens and the name of a parameter, its value to come. -/
theorem ofText_parameter (p : Parameter) :
    Word.ofText ("--" ++ p.name) = .long (Opt.parameter p).name none := by
  cases p <;> decide

/-- **The value behind an equals sign may be any text**, since no name holds
that sign. -/
theorem ofText_joined (p : Parameter) (text : String) :
    Word.ofText ("--" ++ p.name ++ "=" ++ text) = .long (Opt.parameter p).name (some text) := by
  have hname : '=' ∉ p.name.toList := by
    cases p <;> decide
  obtain ⟨c, cs, hcs⟩ : ∃ c cs, p.name.toList = c :: cs := by
    cases p <;> exact ⟨_, _, rfl⟩
  have htext : ("--" ++ p.name ++ "=" ++ text).toList
      = '-' :: '-' :: (p.name.toList ++ '=' :: text.toList) := by
    simp only [String.toList_append, List.append_assoc]
    rfl
  unfold Word.ofText
  rw [htext, hcs]
  simp only [List.cons_append]
  rw [← List.cons_append, ← hcs, cutAtEquals_some hname, String.ofList_toList,
    String.ofList_toList]
  rfl

/-- What does not begin with a hyphen is no option. -/
theorem ofText_plain {text : String} (h : text.toList.head? ≠ some '-') :
    Word.ofText text = .plain text := by
  unfold Word.ofText
  split
  · rename_i heq
    rw [heq] at h
    exact absurd rfl h
  · rename_i heq
    rw [heq] at h
    exact absurd rfl h
  · rename_i heq
    rw [heq] at h
    exact absurd rfl h
  · rfl

namespace Reading

/-- The last value is looked at, and then this is what has been read. -/
def Settles (r : Reading) (a : Arguments) (G : List Opt) : Prop :=
  r.settle = .ok ⟨a, G, none⟩

variable {r : Reading} {a b : Arguments} {G : List Opt}

/-- An option that was not given yet is noted. -/
theorem note_new {w : Option (Parameter × Option String)} {o : Opt} (h : o ∉ G) :
    note ⟨a, G, w⟩ o = .ok ⟨a, G ++ [o], w⟩ := by
  unfold note
  rw [if_neg]
  rw [List.contains_iff_mem]
  exact h

theorem accept_value {w : Option (Parameter × Option String)} {p : Parameter} {text : String}
    (h : a.withValue? text p = some b) : accept ⟨a, G, w⟩ p text = .ok ⟨b, G, w⟩ := by
  unfold accept
  rw [h]

/-- A flag that was not given yet is set and noted. -/
theorem giveFlag_new {f : Flag} (hr : r.Settles a G) (h : Opt.flag f ∉ G) :
    r.giveFlag f = .ok ⟨a.withFlag f, G ++ [.flag f], none⟩ := by
  unfold giveFlag
  rw [hr]
  show (note _ _ >>= _) = _
  rw [note_new h]
  rfl

/-- A parameter that was not given yet takes its value and is noted. -/
theorem giveValue_new {p : Parameter} {text : String} (hr : r.Settles a G)
    (h : Opt.parameter p ∉ G) (hvalue : a.withValue? text p = some b) :
    r.giveValue p text = .ok ⟨b, G ++ [.parameter p], none⟩ := by
  unfold giveValue
  rw [hr]
  show (note _ _ >>= _) = _
  rw [note_new h]
  exact accept_value hvalue

/-- A value that waits is looked at as if it had stood in the same word. -/
theorem settles_waiting {p : Parameter} {text : String} (h : Opt.parameter p ∉ G)
    (hvalue : a.withValue? text p = some b) :
    Settles ⟨a, G, some (p, some text)⟩ b (G ++ [.parameter p]) := by
  show (note ⟨a, G, none⟩ (.parameter p) >>= fun r => r.accept p text) = _
  rw [note_new h]
  exact accept_value hvalue

theorem words_long {w name : String} {value : Option String} (h : Word.ofText w = .long name value)
    (ws : List String) : words (w :: ws) r = r.long name value >>= words ws := by
  unfold words
  rw [h]

theorem words_plain {w text : String} (h : Word.ofText w = .plain text) (ws : List String) :
    words (w :: ws) r = r.plain text >>= words ws := by
  unfold words
  rw [h]

/-- A flag is found by its name. -/
theorem long_flag (f : Flag) : r.long f.name none = r.giveFlag f := by
  unfold long
  rw [show f.name = (Opt.flag f).name from rfl, Opt.ofName?_name]

/-- A parameter with its value is found by its name. -/
theorem long_value (p : Parameter) (text : String) :
    r.long (Opt.parameter p).name (some text) = r.giveValue p text := by
  unfold long
  rw [Opt.ofName?_name]

/-- A parameter whose value is to come is found by its name. -/
theorem long_await (p : Parameter) :
    r.long (Opt.parameter p).name none = r.awaitValue p := by
  unfold long
  rw [Opt.ofName?_name]

/-- **An option is read from its own words**, whatever follows them. -/
theorem words_given {g : Given} (hr : r.Settles a G) (hfair : g.Fair) (hnew : g.opt ∉ G)
    (hadd : g.addTo? a = some b) :
    ∃ r', r'.Settles b (G ++ [g.opt]) ∧ ∀ ws, words (g.words ++ ws) r = words ws r' := by
  cases g with
  | flag f =>
      injection hadd with hadd
      subst hadd
      refine ⟨⟨a.withFlag f, G ++ [.flag f], none⟩, by rfl, fun ws => ?_⟩
      show words (("--" ++ f.name) :: ws) r = _
      rw [words_long (ofText_flag f), long_flag, giveFlag_new hr hnew]
      rfl
  | joined p text =>
      refine ⟨⟨b, G ++ [.parameter p], none⟩, by rfl, fun ws => ?_⟩
      show words (("--" ++ p.name ++ "=" ++ text) :: ws) r = _
      rw [words_long (ofText_joined p text), long_value, giveValue_new hr hnew hadd]
      rfl
  | apart p text =>
      -- The value waits behind its word, and is looked at after that.
      refine ⟨⟨a, G, some (p, some text)⟩, settles_waiting hnew hadd, fun ws => ?_⟩
      have hawait : r.awaitValue p = .ok ⟨a, G, some (p, none)⟩ := by
        unfold awaitValue
        rw [hr]
        rfl
      show words (("--" ++ p.name) :: text :: ws) r = _
      rw [words_long (ofText_parameter p), long_await, hawait]
      show words (text :: ws) _ = _
      rw [words_plain (ofText_plain hfair)]
      rfl

/-- **Options are read one after the other.** -/
theorem words_options {L : List Given}
    (hr : r.Settles a G) (hfair : ∀ g ∈ L, g.Fair) (hnew : (G ++ L.map Given.opt).Nodup)
    (hadd : L.foldlM Given.addTo? a = some b) :
    words (L.flatMap Given.words) r = .ok ⟨b, G ++ L.map Given.opt, none⟩ := by
  -- On the options, along the state of reading: what is settled so far, and the list of
  -- those noted.
  induction L generalizing r a G with
  | nil =>
      injection hadd with hadd
      subst hadd
      rw [List.map_nil, List.append_nil]
      exact hr
  | cons g L ih =>
      rw [List.foldlM_cons] at hadd
      obtain ⟨c, hc, hrest⟩ := Option.bind_eq_some_iff.mp hadd
      have hfresh : g.opt ∉ G := by
        intro hmem
        exact (List.nodup_append.mp hnew).2.2 _ hmem _ (List.mem_cons_self ..) rfl
      obtain ⟨r', hr', hwords⟩ := words_given hr (hfair g (List.mem_cons_self ..)) hfresh hc
      rw [List.flatMap_cons, hwords]
      have hsplit : G ++ (g :: L).map Given.opt = (G ++ [g.opt]) ++ L.map Given.opt := by
        rw [List.map_cons, List.append_assoc, List.singleton_append]
      rw [hsplit] at hnew ⊢
      exact ih hr' (fun h hh => hfair h (List.mem_cons_of_mem _ hh)) hnew hrest

end Reading

/-! ## §3. What is written. -/

/-- What options change in arguments. -/
structure Adds (L : List Given) (a b : Arguments) : Prop where
  flags : ∀ f, b.isSet f = true ↔ a.isSet f = true ∨ Given.flag f ∈ L
  given : ∀ g ∈ L, ∀ p text, g.value? = some (p, text) → b.valueOf? p = some text
  kept : ∀ p, (∀ g ∈ L, ∀ text, g.value? ≠ some (p, text)) → b.valueOf? p = a.valueOf? p

/-- A value that some arguments hold is accepted by any others, and then they
hold it. -/
theorem adds_parameter {g : Given} {a c : Arguments} {p : Parameter} {text : String}
    (hg : g.value? = some (p, text)) (hadd : g.addTo? a = a.withValue? text p)
    (hc : c.valueOf? p = some text) (hne : text ≠ "") :
    ∃ b, g.addTo? a = some b ∧ Adds [g] a b := by
  obtain ⟨b, hb, hvalue⟩ := Arguments.withValue?_of_valueOf? hc hne a
  refine ⟨b, hadd.trans hb, fun f => ?_, ?_, ?_⟩
  · rw [Arguments.isSet_withValue? hb, or_iff_left]
    intro hmem
    rw [← List.mem_singleton.mp hmem] at hg
    cases hg
  · intro g' hg' q text' hgiven
    rw [List.mem_singleton.mp hg', hg] at hgiven
    cases hgiven
    exact hvalue
  · intro q hq
    refine Arguments.valueOf?_withValue? hb fun heq => hq g (List.mem_singleton.mpr rfl) text ?_
    rw [hg, heq]

/-- An option whose value some arguments hold is accepted. -/
theorem adds_one {g : Given} {c : Arguments} (hc : ∀ p, c.valueOf? p ≠ some "")
    (hg : ∀ p text, g.value? = some (p, text) → c.valueOf? p = some text) (a : Arguments) :
    ∃ b, g.addTo? a = some b ∧ Adds [g] a b := by
  have hne : ∀ p text, g.value? = some (p, text) → text ≠ "" := by
    intro p text h heq
    exact hc p (heq ▸ hg p text h)
  cases g with
  | flag f =>
      refine ⟨a.withFlag f, rfl, fun f' => ?_, ?_, ?_⟩
      · rw [Arguments.isSet_withFlag_iff, List.mem_singleton, Given.flag.injEq]
      · intro g' hg' q text hgiven
        rw [List.mem_singleton.mp hg'] at hgiven
        cases hgiven
      · exact fun q _ => Arguments.valueOf?_withFlag a f q
  | joined p text => exact adds_parameter rfl rfl (hg p text rfl) (hne p text rfl)
  | apart p text => exact adds_parameter rfl rfl (hg p text rfl) (hne p text rfl)

/-- **Options whose values some arguments hold are all accepted**, and change
their own fields only. -/
theorem adds_options {c : Arguments} (hc : ∀ p, c.valueOf? p ≠ some "") {L : List Given}
    (hL : ∀ g ∈ L, ∀ p text, g.value? = some (p, text) → c.valueOf? p = some text)
    (a : Arguments) : ∃ b, L.foldlM Given.addTo? a = some b ∧ Adds L a b := by
  induction L generalizing a with
  | nil =>
      refine ⟨a, rfl, fun f => ?_, fun g hg => absurd hg List.not_mem_nil, fun p _ => rfl⟩
      rw [or_iff_left List.not_mem_nil]
  | cons g L ih =>
      obtain ⟨a', ha', hfirst⟩ := adds_one hc (hL g (List.mem_cons_self ..)) a
      obtain ⟨b, hb, hrest⟩ := ih (fun g' hg' => hL g' (List.mem_cons_of_mem _ hg')) a'
      refine ⟨b, ?_, fun f => ?_, ?_, ?_⟩
      · rw [List.foldlM_cons, ha']
        exact hb
      · rw [hrest.flags, hfirst.flags, List.mem_singleton, List.mem_cons, or_assoc]
      · intro g' hg' p text hgiven
        -- A later option with the same parameter has the same value.
        by_cases hlater : ∃ g'' ∈ L, ∃ text', g''.value? = some (p, text')
        · obtain ⟨g'', hg'', text', hvalue⟩ := hlater
          have hsame : some text = some text' :=
            (hL g' hg' p text hgiven).symm.trans
              (hL g'' (List.mem_cons_of_mem _ hg'') p text' hvalue)
          rw [hsame]
          exact hrest.given g'' hg'' p text' hvalue
        · have hnone : ∀ g'' ∈ L, ∀ text', g''.value? ≠ some (p, text') :=
            fun g'' hg'' text' hvalue => hlater ⟨g'', hg'', text', hvalue⟩
          rw [hrest.kept p hnone]
          rcases List.mem_cons.mp hg' with rfl | hg'
          · exact hfirst.given _ (List.mem_singleton.mpr rfl) p text hgiven
          · exact absurd hgiven (hnone g' hg' text)
      · intro p hp
        rw [hrest.kept p fun g' hg' => hp g' (List.mem_cons_of_mem _ hg')]
        refine hfirst.kept p fun g' hg' => ?_
        rw [List.mem_singleton.mp hg']
        exact hp g (List.mem_cons_self ..)

/-- **What is written sets every field.** -/
theorem options_renders {a : Arguments} {L : List Given} (h : Renders a L)
    (hne : ∀ p, a.valueOf? p ≠ some "") : L.foldlM Given.addTo? {} = some a := by
  obtain ⟨b, hb, hadds⟩ := adds_options hne h.sound {}
  have hbare : ∀ f, ({} : Arguments).isSet f = false := by
    intro f
    cases f <;> rfl
  rw [hb, Option.some.injEq]
  refine Arguments.eq_of_fields (fun f => ?_) fun p => ?_
  · rw [Bool.eq_iff_iff, hadds.flags, h.flags, hbare, or_iff_right Bool.false_ne_true]
  · by_cases hgiven : ∃ g ∈ L, ∃ text, g.value? = some (p, text)
    · obtain ⟨g, hg, text, hvalue⟩ := hgiven
      rw [hadds.given g hg p text hvalue, h.sound g hg p text hvalue]
    · -- What is not written is missing, or the default environment.
      have hmissing : ∀ g ∈ L, ∀ text, g.value? ≠ some (p, text) :=
        fun g hg text hvalue => hgiven ⟨g, hg, text, hvalue⟩
      rw [hadds.kept p hmissing]
      cases ha : a.valueOf? p with
      | none =>
          cases p with
          | environment => cases ha
          | _ => rfl
      | some text =>
          rcases h.complete p text ha with ⟨g, hg, hvalue⟩ | ⟨rfl, henv⟩
          · exact absurd hvalue (hmissing g hg text)
          · rw [← ha]
            show some _ = some (Choice.name a.environment)
            rw [henv]

/-- What is written names just the flags that are set. -/
theorem Renders.flag_iff {a : Arguments} {L : List Given} (h : Renders a L) (f : Flag) :
    .flag f ∈ L.map Given.opt ↔ a.isSet f = true := by
  rw [← h.flags]
  constructor
  · intro hmem
    obtain ⟨g, hg, hopt⟩ := List.mem_map.mp hmem
    cases g with
    | flag f' => cases hopt; exact hg
    | joined p text => cases hopt
    | apart p text => cases hopt
  · exact fun hmem => List.mem_map.mpr ⟨_, hmem, rfl⟩

/-- **Two different options may be given in either order.** -/
theorem addTo?_comm {g h : Given} {a b c : Arguments} (hg : g.addTo? a = some b)
    (hh : h.addTo? a = some c) (hne : g.opt ≠ h.opt) :
    ∃ d, h.addTo? b = some d ∧ g.addTo? c = some d := by
  have hflag : ∀ {f : Flag} {a c : Arguments} {p : Parameter} {text : String},
      a.withValue? text p = some c → (a.withFlag f).withValue? text p = some (c.withFlag f) := by
    intro f a c p text h
    rw [Arguments.withValue?_withFlag, h]
    rfl
  have hvalues : ∀ {p q : Parameter} {s t : String}, Opt.parameter p ≠ Opt.parameter q →
      a.withValue? s p = some b → a.withValue? t q = some c →
      ∃ d, b.withValue? t q = some d ∧ c.withValue? s p = some d :=
    fun hne hp hq => Arguments.withValue?_comm hp hq fun heq => hne (congrArg Opt.parameter heq)
  -- Flags and values are different fields; two values are of two parameters.
  cases g with
  | flag f =>
      injection hg with hg
      subst hg
      cases h with
      | flag f' =>
          injection hh with hh
          subst hh
          exact ⟨_, rfl, congrArg some (Arguments.withFlag_comm a f f')⟩
      | joined q t => exact ⟨_, hflag hh, rfl⟩
      | apart q t => exact ⟨_, hflag hh, rfl⟩
  | joined p s =>
      cases h with
      | flag f =>
          injection hh with hh
          subst hh
          exact ⟨_, rfl, hflag hg⟩
      | joined q t => exact hvalues hne hg hh
      | apart q t => exact hvalues hne hg hh
  | apart p s =>
      cases h with
      | flag f =>
          injection hh with hh
          subst hh
          exact ⟨_, rfl, hflag hg⟩
      | joined q t => exact hvalues hne hg hh
      | apart q t => exact hvalues hne hg hh

/-- An option may be given before or after the others. -/
theorem foldlM_addTo?_comm {L : List Given} {g : Given} {a a' b : Arguments}
    (hL : L.foldlM Given.addTo? a = some a') (hg : g.addTo? a = some b)
    (hnew : g.opt ∉ L.map Given.opt) :
    ∃ d, L.foldlM Given.addTo? b = some d ∧ g.addTo? a' = some d := by
  induction L generalizing a b with
  | nil =>
      injection hL with hL
      subst hL
      exact ⟨b, rfl, hg⟩
  | cons h L ih =>
      rw [List.map_cons, List.mem_cons, not_or] at hnew
      rw [List.foldlM_cons] at hL
      obtain ⟨c, hc, hrest⟩ := Option.bind_eq_some_iff.mp hL
      obtain ⟨d, hd, hcd⟩ := addTo?_comm hg hc hnew.1
      obtain ⟨e, he, hae⟩ := ih hrest hcd hnew.2
      refine ⟨e, ?_, hae⟩
      rw [List.foldlM_cons, hd]
      exact he

/-- An option with an accepted value may be put in at any place, instead of
after the others. -/
theorem foldlM_addTo?_insert {L₁ L₂ : List Given} {g : Given} {a₀ a b : Arguments} {p : Parameter}
    {text : String} (h : (L₁ ++ L₂).foldlM Given.addTo? a₀ = some a)
    (hg : g.value? = some (p, text)) (hnew : .parameter p ∉ (L₁ ++ L₂).map Given.opt)
    (hb : a.withValue? text p = some b) :
    (L₁ ++ g :: L₂).foldlM Given.addTo? a₀ = some b := by
  obtain ⟨hopt, hvalues⟩ := Given.of_value? hg
  rw [List.foldlM_append] at h ⊢
  obtain ⟨a₁, ha₁, ha₂⟩ := Option.bind_eq_some_iff.mp h
  obtain ⟨b₁, hb₁⟩ : ∃ b₁, g.addTo? a₁ = some b₁ := by
    rw [← Option.ne_none_iff_exists', hvalues]
    intro hnone
    rw [Arguments.withValue?_eq_none hnone a] at hb
    cases hb
  have hnew₂ : g.opt ∉ L₂.map Given.opt := by
    rw [List.map_append, List.mem_append, not_or] at hnew
    rw [hopt]
    exact hnew.2
  obtain ⟨d, hd, had⟩ := foldlM_addTo?_comm ha₂ hb₁ hnew₂
  rw [hvalues, hb] at had
  rw [ha₁]
  show (g :: L₂).foldlM Given.addTo? a₁ = some b
  rw [List.foldlM_cons, hb₁, had]
  exact hd

end Provision.CommandLine
