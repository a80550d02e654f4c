/-
  Provision.Proofs.ArgumentFields
  ───────────────────────────────
  **ARGUMENTS BY THEIR FIELDS.**

  Arguments are known by the flags that are set in them and by the texts that
  give their parameters their values.  Setting one parameter changes its own
  text only, whether a value is accepted does not depend on the rest, and two
  of them may be set in either order.

  Main results:

    `withValue?_of_valueOf?`     the text of a value gives the value back
    `eq_of_fields`               flags and texts make the arguments
    `withValue?_comm`            two parameters may be set in either order
-/
import Provision.Proofs.GivenFlags

namespace Provision.CommandLine

namespace Arguments

/-! ## §1. Flags and texts. -/

/-- The text that gives a parameter its value in the arguments. -/
def valueOf? (a : Arguments) : Parameter → Option String
  | .cuda => a.accelerator.map Choice.name
  | .environment => some (Choice.name a.environment)
  | .project => a.project.map Path.text
  | .config => a.config.map Path.text
  | .python => a.python
  | .platform => a.platform.map Choice.name

variable {a b c : Arguments}

/-- Flags change no value. -/
theorem valueOf?_withFlag (a : Arguments) (f : Flag) (p : Parameter) :
    (a.withFlag f).valueOf? p = a.valueOf? p := by
  cases f <;> rfl

/-- Giving a flag sets that flag and no other. -/
theorem isSet_withFlag_iff (a : Arguments) (f g : Flag) :
    (a.withFlag g).isSet f = true ↔ a.isSet f = true ∨ f = g := by
  by_cases h : f = g
  · subst h
    simp only [isSet_withFlag, or_true]
  · have hkept : (a.withFlag g).isSet f = a.isSet f := by
      cases f <;> cases g <;> first | rfl | exact absurd rfl h
    rw [hkept, or_iff_left h]

/-- Only the parameter itself has another value. -/
theorem valueOf?_withValue? {p q : Parameter} {text : String} (h : a.withValue? text p = some b)
    (hne : q ≠ p) : b.valueOf? q = a.valueOf? q := by
  unfold withValue? at h
  cases p with
  | python =>
      injection h with h
      subst h
      cases q <;> first | rfl | exact absurd rfl hne
  | _ =>
      obtain ⟨x, -, rfl⟩ := Option.map_eq_some_iff.mp h
      cases q <;> first | rfl | exact absurd rfl hne

theorem path?_text {path : Path} (h : path.text ≠ "") : path? path.text = some path := by
  unfold path?
  rw [if_neg]
  rwa [beq_iff_eq]

/-- The text of a value gives the value back. -/
theorem withValue?_of_valueOf? {p : Parameter} {text : String} (h : c.valueOf? p = some text)
    (hne : text ≠ "") (a : Arguments) :
    ∃ b, a.withValue? text p = some b ∧ b.valueOf? p = some text := by
  cases p with
  | cuda =>
      obtain ⟨x, -, rfl⟩ := Option.map_eq_some_iff.mp h
      refine ⟨{ a with accelerator := some x }, ?_, rfl⟩
      simp only [withValue?, Accelerator.ofName?_name, Option.map_some]
  | environment =>
      injection h with h
      subst h
      refine ⟨{ a with environment := c.environment }, ?_, rfl⟩
      simp only [withValue?, Environment.ofName?_name, Option.map_some]
  | project =>
      obtain ⟨x, -, rfl⟩ := Option.map_eq_some_iff.mp h
      refine ⟨{ a with project := some x }, ?_, rfl⟩
      simp only [withValue?, path?_text hne, Option.map_some]
  | config =>
      obtain ⟨x, -, rfl⟩ := Option.map_eq_some_iff.mp h
      refine ⟨{ a with config := some x }, ?_, rfl⟩
      simp only [withValue?, path?_text hne, Option.map_some]
  | python => exact ⟨_, rfl, rfl⟩
  | platform =>
      obtain ⟨x, -, rfl⟩ := Option.map_eq_some_iff.mp h
      refine ⟨{ a with platform := some x }, ?_, rfl⟩
      simp only [withValue?, Os.ofName?_name, Option.map_some]

/-- A choice is known by its name. -/
theorem name_injective {α : Type} [Choice α]
    (h : ∀ x : α, Choice.ofName? false (Choice.name x) = some x) (x y : α)
    (heq : Choice.name x = Choice.name y) : x = y := by
  have hx := h x
  rw [heq, h y] at hx
  injection hx with hx
  exact hx.symm

/-- **Arguments are known by their flags and by the texts of their values.** -/
theorem eq_of_fields (hflags : ∀ f, a.isSet f = b.isSet f)
    (hvalues : ∀ p, a.valueOf? p = b.valueOf? p) : a = b := by
  have hcuda : a.accelerator = b.accelerator :=
    (Option.map_inj_right (name_injective Accelerator.ofName?_name)).mp (hvalues .cuda)
  have henvironment : a.environment = b.environment := by
    have h := hvalues .environment
    injection h with h
    exact name_injective Environment.ofName?_name _ _ h
  have hpath : ∀ x y : Path, x.text = y.text → x = y := by
    rintro ⟨x⟩ ⟨y⟩ h
    exact congrArg Path.mk h
  have hproject : a.project = b.project := (Option.map_inj_right hpath).mp (hvalues .project)
  have hconfig : a.config = b.config := (Option.map_inj_right hpath).mp (hvalues .config)
  have hplatform : a.platform = b.platform :=
    (Option.map_inj_right (name_injective Os.ofName?_name)).mp (hvalues .platform)
  obtain ⟨⟩ := a
  obtain ⟨⟩ := b
  simp only [mk.injEq]
  exact ⟨hcuda, henvironment, hflags .nightly, hflags .force, hproject, hconfig, hvalues .python,
    hflags .dryRun, hflags .verbose, hflags .quiet, hflags .noColor, hflags .debug, hplatform⟩

/-! ## §2. Setting one field and another. -/

/-- Whether a value is accepted does not depend on the other fields. -/
theorem withValue?_eq_none {p : Parameter} {text : String} (h : a.withValue? text p = none)
    (b : Arguments) : b.withValue? text p = none := by
  unfold withValue? at h ⊢
  cases p with
  | python => cases h
  | _ => exact Option.map_eq_none_iff.mpr (Option.map_eq_none_iff.mp h)

/-- Two parameters may be set in either order. -/
theorem withValue?_comm {p q : Parameter} {s t : String} (hp : a.withValue? s p = some b)
    (hq : a.withValue? t q = some c) (hne : p ≠ q) :
    ∃ d, b.withValue? t q = some d ∧ c.withValue? s p = some d := by
  unfold withValue? at hp hq ⊢
  cases p <;> cases q <;>
    first
    | exact absurd rfl hne
    | (simp only [Option.map_eq_some_iff, Option.some.injEq] at hp hq ⊢
       grind)

/-- No value is empty: the names of a choice never are, and the texts are not. -/
theorem valueOf?_ne_empty (hproject : a.project ≠ some ⟨""⟩) (hconfig : a.config ≠ some ⟨""⟩)
    (hpython : a.python ≠ some "") (p : Parameter) : a.valueOf? p ≠ some "" := by
  intro hp
  cases p with
  | cuda =>
      obtain ⟨x, -, hx⟩ := Option.map_eq_some_iff.mp hp
      cases x <;> exact absurd hx (by decide)
  | environment =>
      injection hp with hx
      revert hx
      cases a.environment <;> decide
  | project =>
      obtain ⟨⟨x⟩, hx, rfl⟩ := Option.map_eq_some_iff.mp hp
      exact hproject hx
  | config =>
      obtain ⟨⟨x⟩, hx, rfl⟩ := Option.map_eq_some_iff.mp hp
      exact hconfig hx
  | python => exact hpython hp
  | platform =>
      obtain ⟨x, -, hx⟩ := Option.map_eq_some_iff.mp hp
      cases x <;> exact absurd hx (by decide)

theorem withFlag_comm (a : Arguments) (f g : Flag) :
    (a.withFlag g).withFlag f = (a.withFlag f).withFlag g := by
  cases f <;> cases g <;> rfl

/-- A flag and a value may be given in either order. -/
theorem withValue?_withFlag (a : Arguments) (f : Flag) (p : Parameter) (text : String) :
    (a.withFlag f).withValue? text p = (a.withValue? text p).map fun b => b.withFlag f := by
  cases p with
  | python => cases f <;> rfl
  | _ =>
      simp only [withValue?, Option.map_map]
      cases f <;> rfl

end Arguments

end Provision.CommandLine
