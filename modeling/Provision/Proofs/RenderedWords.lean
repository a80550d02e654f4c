/-
  Provision.Proofs.RenderedWords
  ──────────────────────────────
  **READING UNDOES WRITING.**

  Words that say what arguments hold are read as these arguments, unless two
  flags among them exclude each other.  A variable of the environment stands
  for an option that is missing, and for no other.

  Main results:

    `checkExclusion_both`    two flags that exclude each other are refused
    `read_inserted`      a variable stands for its option at any place
    `read_rendered`      reading undoes writing, with the environment behind it
-/
import Provision.Proofs.Fallback
import Provision.Proofs.GivenOptions

namespace Provision.CommandLine

/-! ## §1. Flags that exclude each other. -/

/-- Is it one of the two flags that exclude each other? -/
def Opt.excludes (o : Opt) : Bool := o == .flag .verbose || o == .flag .quiet

/-- The flags that exclude each other are the two about the amount of output. -/
theorem excludes_iff {o : Opt} :
    o.excludes = true ↔ o = .flag .verbose ∨ o = .flag .quiet := by
  unfold Opt.excludes
  rw [Bool.or_eq_true, beq_iff_eq, beq_iff_eq]

/-- Without both of the two flags nothing is excluded. -/
theorem checkExclusion_one {a : Arguments} {G : List Opt} (hG : G.Nodup)
    (h : ¬ (.flag .verbose ∈ G ∧ .flag .quiet ∈ G)) :
    Reading.checkExclusion ⟨a, G, none⟩ = .ok () := by
  unfold Reading.checkExclusion
  split
  · rename_i f g rest heq
    have heq : G.filter Opt.excludes = .flag f :: .flag g :: rest := heq
    have hnodup : (G.filter Opt.excludes).Nodup := hG.filter _
    have hmem : ∀ o ∈ G.filter Opt.excludes, o ∈ G ∧ (o = .flag .verbose ∨ o = .flag .quiet) :=
      fun o ho => ⟨(List.mem_filter.mp ho).1, excludes_iff.mp (List.mem_filter.mp ho).2⟩
    rw [heq] at hnodup hmem
    obtain ⟨hf, hfname⟩ := hmem (.flag f) (List.mem_cons_self ..)
    obtain ⟨hg, hgname⟩ := hmem (.flag g) (List.mem_cons_of_mem _ (List.mem_cons_self ..))
    have hne : Opt.flag f ≠ .flag g := by
      intro heq
      rw [heq] at hnodup
      exact (List.nodup_cons.mp hnodup).1 (List.mem_cons_self ..)
    -- Two different ones of the two flags are both of them.
    rcases hfname with hfname | hfname <;> rcases hgname with hgname | hgname <;>
      rw [hfname] at hf hne <;> rw [hgname] at hg hne
    · exact absurd rfl hne
    · exact absurd ⟨hf, hg⟩ h
    · exact absurd ⟨hg, hf⟩ h
    · exact absurd rfl hne
  · rfl

/-- **With both of them the words are refused**, and the fault names both in
their order. -/
theorem checkExclusion_both {a : Arguments} {G : List Opt} (hG : G.Nodup)
    (hverbose : .flag .verbose ∈ G) (hquiet : .flag .quiet ∈ G) :
    ∃ f g, ((f = .verbose ∧ g = .quiet) ∨ (f = .quiet ∧ g = .verbose))
      ∧ Reading.checkExclusion ⟨a, G, none⟩ = .error (.fault (.excluded f g)) := by
  have hcheck : ∀ f g rest, G.filter Opt.excludes = .flag f :: .flag g :: rest →
      Reading.checkExclusion ⟨a, G, none⟩ = .error (.fault (.excluded f g)) := by
    intro f g rest heq
    have hgiven : (G.filter fun o => o == .flag .verbose || o == .flag .quiet)
        = .flag f :: .flag g :: rest := heq
    unfold Reading.checkExclusion
    rw [hgiven]
    rfl
  have hnodup : (G.filter Opt.excludes).Nodup := hG.filter _
  have hverbose' : .flag .verbose ∈ G.filter Opt.excludes := List.mem_filter.mpr ⟨hverbose, rfl⟩
  have hquiet' : .flag .quiet ∈ G.filter Opt.excludes := List.mem_filter.mpr ⟨hquiet, rfl⟩
  have hmem : ∀ o ∈ G.filter Opt.excludes, o = .flag .verbose ∨ o = .flag .quiet :=
    fun o ho => excludes_iff.mp (List.mem_filter.mp ho).2
  obtain ⟨o, o', rest, hfiltered⟩ : ∃ o o' rest, G.filter Opt.excludes = o :: o' :: rest := by
    generalize G.filter Opt.excludes = F at hverbose' hquiet'
    cases F with
    | nil => cases hverbose'
    | cons o F =>
        cases F with
        | nil =>
            have heq := (List.mem_singleton.mp hverbose').trans (List.mem_singleton.mp hquiet').symm
            cases heq
        | cons o' rest => exact ⟨o, o', rest, rfl⟩
  rw [hfiltered] at hnodup hmem
  have hne : o ≠ o' := by
    intro heq
    rw [heq] at hnodup
    exact (List.nodup_cons.mp hnodup).1 (List.mem_cons_self ..)
  rcases hmem o (List.mem_cons_self ..) with rfl | rfl <;>
    rcases hmem o' (List.mem_cons_of_mem _ (List.mem_cons_self ..)) with rfl | rfl
  · exact absurd rfl hne
  · exact ⟨_, _, .inl ⟨rfl, rfl⟩, hcheck _ _ rest hfiltered⟩
  · exact ⟨_, _, .inr ⟨rfl, rfl⟩, hcheck _ _ rest hfiltered⟩
  · exact absurd rfl hne

/-! ## §2. Reading what is written. -/

/-- What follows the words. -/
theorem read_eq {ws : List String} {a : Arguments} {G : List Opt}
    (h : Reading.words ws {} = .ok ⟨a, G, none⟩) (valueOf : String → Option String) :
    read valueOf ws = (Parameter.withVariable.foldlM (fallenBack valueOf G) a).bind fun b =>
      (Reading.checkExclusion ⟨b, G, none⟩).bind fun _ => .ok b := by
  show (Reading.words ws {} >>= fun r => _) = _
  rw [h]
  show (Parameter.withVariable.foldlM (Reading.fallBack valueOf) _ >>= fun r => _) = _
  rw [foldlM_fallBack]
  cases Parameter.withVariable.foldlM (fallenBack valueOf G) a with
  | error e => rfl
  | ok b => rfl

/-- Words are read as what they set, if nothing falls back and nothing is
excluded. -/
theorem read_unset {valueOf : String → Option String} {ws : List String} {a : Arguments}
    {G : List Opt} (h : Reading.words ws {} = .ok ⟨a, G, none⟩) (hunset : Unset valueOf G) :
    read valueOf ws = (Reading.checkExclusion ⟨a, G, none⟩).bind fun _ => .ok a := by
  rw [read_eq h, foldlM_fallenBack_unset hunset]
  rfl

/-- **A variable stands for its option** at any place among the words: reading
gives the same, be it arguments or a refusal. -/
theorem read_inserted {L₁ L₂ : List Given} {g : Given} {a b : Arguments} {p : Parameter}
    {v text : String} {valueOf valueOf' : String → Option String}
    (hfair : ∀ g' ∈ L₁ ++ g :: L₂, g'.Fair) (honce : ((L₁ ++ L₂).map Given.opt).Nodup)
    (hadd : (L₁ ++ L₂).foldlM Given.addTo? {} = some a)
    (hg : g.value? = some (p, text)) (hnew : .parameter p ∉ (L₁ ++ L₂).map Given.opt)
    (hv : p.fallback? = some v) (hset : valueOf v = some text)
    (hb : a.withValue? text p = some b) (henv : ∀ u, u ≠ v → valueOf' u = valueOf u) :
    read valueOf ((L₁ ++ L₂).flatMap Given.words)
        = read valueOf' ((L₁ ++ g :: L₂).flatMap Given.words)
      ∧ (Unset valueOf (.parameter p :: (L₁ ++ L₂).map Given.opt) →
          read valueOf ((L₁ ++ L₂).flatMap Given.words)
            = (Reading.checkExclusion ⟨b, (L₁ ++ L₂).map Given.opt, none⟩).bind fun _ => .ok b) := by
  have hgiven : (L₁ ++ g :: L₂).map Given.opt
      = L₁.map Given.opt ++ .parameter p :: L₂.map Given.opt := by
    rw [List.map_append, List.map_cons, (Given.of_value? hg).1]
  have hmem : ∀ o, o ∈ (L₁ ++ g :: L₂).map Given.opt
      ↔ o = .parameter p ∨ o ∈ (L₁ ++ L₂).map Given.opt := by
    intro o
    rw [hgiven, List.map_append, List.mem_append, List.mem_cons, List.mem_append, or_left_comm]
  have honce' : ((L₁ ++ g :: L₂).map Given.opt).Nodup := by
    rw [hgiven, List.perm_middle.nodup_iff, List.nodup_cons, ← List.map_append]
    exact ⟨hnew, honce⟩
  have hless : ∀ g' ∈ L₁ ++ L₂, g'.Fair := by
    intro g' hg'
    refine hfair g' ?_
    rw [List.mem_append, List.mem_cons]
    exact (List.mem_append.mp hg').imp_right .inr
  have hwords : Reading.words ((L₁ ++ L₂).flatMap Given.words) {}
      = .ok ⟨a, (L₁ ++ L₂).map Given.opt, none⟩ :=
    Reading.words_options (G := []) rfl hless honce hadd
  have hwords' : Reading.words ((L₁ ++ g :: L₂).flatMap Given.words) {}
      = .ok ⟨b, (L₁ ++ g :: L₂).map Given.opt, none⟩ :=
    Reading.words_options (G := []) rfl hfair honce' (foldlM_addTo?_insert hadd hg hnew hb)
  -- The option is no flag, and excludes nothing.
  have hcheck : ∀ c, Reading.checkExclusion ⟨c, (L₁ ++ g :: L₂).map Given.opt, none⟩
      = Reading.checkExclusion ⟨c, (L₁ ++ L₂).map Given.opt, none⟩ := by
    intro c
    unfold Reading.checkExclusion
    rw [hgiven, List.map_append]
    simp only [List.filter_append, List.filter_cons]
    rfl
  have hother : ∀ q, q ≠ p → q.fallback?.bind valueOf = q.fallback?.bind valueOf' := by
    intro q hq
    cases hu : q.fallback? with
    | none => rfl
    | some u =>
        have hne : u ≠ v := fun heq => hq (fallback_injective hu (heq ▸ hv))
        exact (henv u hne).symm
  have hread : read valueOf ((L₁ ++ L₂).flatMap Given.words)
      = read valueOf' ((L₁ ++ g :: L₂).flatMap Given.words) := by
    rw [read_eq hwords, read_eq hwords']
    simp only [hcheck]
    rw [foldlM_fallenBack_given hnew ((hmem _).mpr (.inl rfl)) _ hother (by rw [hv]; exact hset)
      (by decide) (isSome_fallback hv) hb]
    intro q hq
    rw [hmem, or_iff_right fun heq => hq (Opt.parameter.inj heq)]
  refine ⟨hread, fun hunset => ?_⟩
  have hunset' : Unset valueOf' ((L₁ ++ g :: L₂).map Given.opt) := by
    intro q u hq hu
    rw [hmem, not_or] at hq
    have hqp : q ≠ p := fun heq => hq.1 (congrArg Opt.parameter heq)
    have hne : u ≠ v := fun heq => hqp (fallback_injective hu (heq ▸ hv))
    rw [henv u hne]
    refine hunset q u ?_ hu
    rw [List.mem_cons, not_or]
    exact hq
  rw [hread, read_unset hwords' hunset', hcheck]

/-- **Reading undoes writing, with the environment behind it.**  Words that
say what the arguments hold are read as these arguments, unless two flags
exclude each other; what the variables of the options among them hold does not
matter.  And a variable with an accepted value is as good as its option at any
place among the words. -/
theorem read_rendered {a : Arguments} {L : List Given} (h : Renders a L)
    (hproject : a.project ≠ some ⟨""⟩) (hconfig : a.config ≠ some ⟨""⟩)
    (hpython : a.python ≠ some "") (valueOf : String → Option String) :
    (Unset valueOf (L.map Given.opt) →
        ((a.verbose && a.quiet) = false → read valueOf (L.flatMap Given.words) = .ok a)
          ∧ ((a.verbose && a.quiet) = true → ∃ f g,
              ((f = .verbose ∧ g = .quiet) ∨ (f = .quiet ∧ g = .verbose))
                ∧ read valueOf (L.flatMap Given.words) = .error (.fault (.excluded f g))))
      ∧ ∀ L₁ L₂ g p v text b (valueOf' : String → Option String), L = L₁ ++ L₂ →
          g.Fair → g.value? = some (p, text) → .parameter p ∉ L.map Given.opt →
          p.fallback? = some v → valueOf v = some text → a.withValue? text p = some b →
          (∀ u, u ≠ v → valueOf' u = valueOf u) →
          read valueOf (L.flatMap Given.words)
              = read valueOf' ((L₁ ++ g :: L₂).flatMap Given.words)
            ∧ (Unset valueOf (.parameter p :: L.map Given.opt) → (a.verbose && a.quiet) = false →
                read valueOf (L.flatMap Given.words) = .ok b) := by
  have hadd : L.foldlM Given.addTo? {} = some a :=
    options_renders h (Arguments.valueOf?_ne_empty hproject hconfig hpython)
  have hwords : Reading.words (L.flatMap Given.words) {} = .ok ⟨a, L.map Given.opt, none⟩ :=
    Reading.words_options (G := []) rfl h.fair h.once hadd
  have hone : (a.verbose && a.quiet) = false →
      ¬ (.flag .verbose ∈ L.map Given.opt ∧ .flag .quiet ∈ L.map Given.opt) := by
    rintro hboth ⟨hverbose, hquiet⟩
    have hv : a.verbose = true := (h.flag_iff .verbose).mp hverbose
    have hq : a.quiet = true := (h.flag_iff .quiet).mp hquiet
    rw [hv, hq] at hboth
    cases hboth
  refine ⟨fun hunset => ⟨fun hboth => ?_, fun hboth => ?_⟩, ?_⟩
  · rw [read_unset hwords hunset, checkExclusion_one h.once (hone hboth)]
    rfl
  · rw [Bool.and_eq_true] at hboth
    obtain ⟨f, g, hfg, hcheck⟩ := checkExclusion_both (a := a) h.once
      ((h.flag_iff .verbose).mpr hboth.1) ((h.flag_iff .quiet).mpr hboth.2)
    refine ⟨f, g, hfg, ?_⟩
    rw [read_unset hwords hunset, hcheck]
    rfl
  · intro L₁ L₂ g p v text b valueOf' hL hfair hvalue hnew hv hset hb henv
    subst hL
    have hall : ∀ g' ∈ L₁ ++ g :: L₂, g'.Fair := by
      intro g' hg'
      rw [List.mem_append, List.mem_cons, or_left_comm, ← List.mem_append] at hg'
      rcases hg' with rfl | hg'
      · exact hfair
      · exact h.fair g' hg'
    obtain ⟨hread, hrest⟩ := read_inserted hall h.once hadd hvalue hnew hv hset hb henv
    refine ⟨hread, fun hunset hboth => ?_⟩
    rw [hrest hunset, checkExclusion_one h.once (hone hboth)]
    rfl

/-- A preview for developers with its own settings file. -/
def preview : Arguments where
  accelerator := some .cu113
  environment := .developer
  config := some ⟨"pins/a=b c.yml"⟩
  verbose := true

/-- Options that say so. -/
def previewOptions : List Given :=
  [.joined .config "pins/a=b c.yml", .flag .verbose, .apart .cuda "cu113",
    .joined .environment "dev"]

theorem renders_preview : Renders preview previewOptions where
  once := by decide
  fair := by
    intro g hg
    simp only [previewOptions, List.mem_cons, List.not_mem_nil, or_false] at hg
    rcases hg with rfl | rfl | rfl | rfl
    · trivial
    · trivial
    · show "cu113".toList.head? ≠ some '-'
      decide
    · trivial
  flags := by
    intro f
    cases f <;> decide
  sound := by
    intro g hg p text hvalue
    simp only [previewOptions, List.mem_cons, List.not_mem_nil, or_false] at hg
    rcases hg with rfl | rfl | rfl | rfl <;> cases hvalue <;> rfl
  complete := by
    intro p text hvalue
    refine .inl ?_
    cases p with
    | cuda => exact ⟨.apart .cuda "cu113", by decide, by cases hvalue; rfl⟩
    | environment => exact ⟨.joined .environment "dev", by decide, by cases hvalue; rfl⟩
    | config => exact ⟨.joined .config "pins/a=b c.yml", by decide, by cases hvalue; rfl⟩
    | project => cases hvalue
    | python => cases hvalue
    | platform => cases hvalue

/-- A variable that holds nonsense does not matter where its option is given,
and one that holds an interpreter names it. -/
theorem read_rendered_preview :
    Renders preview previewOptions ∧ preview.config ≠ some ⟨""⟩
      ∧ read (fun v => if v = "SERVEDEPS_CUDA" then some "cu0" else none)
          (previewOptions.flatMap Given.words) = .ok preview
      ∧ read (fun v => if v = "SERVEDEPS_PYTHON" then some "py -3" else none)
          (previewOptions.flatMap Given.words) = .ok { preview with python := some "py -3" } := by
  have hconfig : preview.config ≠ some ⟨""⟩ := by decide
  have hread := read_rendered renders_preview (by decide) hconfig (by decide)
  refine ⟨renders_preview, hconfig, ((hread _).1 ?_).1 rfl, ?_⟩
  · intro p v hp hv
    cases p <;> first | exact absurd (by decide) hp | (cases hv; done) | (cases hv; rfl)
  · refine ((hread _).2 [] previewOptions (.joined .python "py -3") .python "SERVEDEPS_PYTHON"
      "py -3" _ (fun _ => none) rfl trivial rfl (by decide) rfl rfl rfl ?_).2 ?_ rfl
    · intro u hu
      rw [if_neg hu]
    · intro p v hp hv
      cases p <;> first | exact absurd (by decide) hp | cases hv

end Provision.CommandLine
