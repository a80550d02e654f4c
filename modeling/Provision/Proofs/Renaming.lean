/-
  Provision.Proofs.Renaming
  ─────────────────────────
  **UP TO THE NAMES OF WHAT IS CREATED.**

  Whoever creates a file or directory of a new name chooses part of that name
  at random.  A renaming pairs the random parts of one run with those of
  another; two texts are alike when they are put together from equal pieces
  and from paired names.  A name is not empty and has no slash, so that a path
  below an alike path is alike and a command line of alike words is.

  Main results:

    `alike_iff_eq`    without paired names to be alike is to be equal
    `alike_join`      joining keeps paths alike
    `alike_line`      alike commands have alike command lines
    `likeness`        a renaming is a likeness
-/
import Provision.Proofs.Likeness

namespace Provision

/-! ## §1. Names. -/

/-- Can the text be part of a name below a directory? -/
def IsName (x : String) : Prop := x ≠ "" ∧ '/' ∉ x.toList

instance (x : String) : Decidable (IsName x) := inferInstanceAs (Decidable (_ ∧ _))

/-- Random parts of names in one run, each with what it is in the other. -/
structure Renaming where
  pairs : List (String × String) := []
  proper : ∀ p ∈ pairs, IsName p.1 ∧ IsName p.2 := by decide

namespace Renaming

/-- Texts that differ in paired names only. -/
inductive Alike (N : Renaming) : String → String → Prop
  | same (s : String) : Alike N s s
  | name {x y : String} (h : (x, y) ∈ N.pairs) : Alike N x y
  | append {s t u v : String} (h : Alike N s t) (h' : Alike N u v) : Alike N (s ++ u) (t ++ v)

variable {N : Renaming}

/-- Where no names are paired, alike texts are equal. -/
theorem alike_iff_eq {s t : String} : Alike {} s t ↔ s = t := by
  constructor
  · intro h
    induction h with
    | same s => rfl
    | name h => cases h
    | append _ _ ih ih' => rw [ih, ih']
  · rintro rfl
    exact .same s

/-- What a path looks like at its end. -/
def ending (s : String) : Option Bool := s.toList.getLast?.map (· == '/')

/-- How a text ends is how its last part ends, unless that is empty. -/
theorem ending_append (s u : String) : ending (s ++ u) = (ending u).or (ending s) := by
  unfold ending
  rw [String.toList_append, List.getLast?_append]
  cases u.toList.getLast? <;> rfl

/-- A name does not end in a slash. -/
theorem ending_of_isName {x : String} (h : IsName x) : ending x = some false := by
  obtain ⟨hne, hslash⟩ := h
  unfold ending
  cases hlast : x.toList.getLast? with
  | none =>
      rw [List.getLast?_eq_none_iff] at hlast
      exact absurd (String.toList_eq_nil_iff.mp hlast) hne
  | some c =>
      have hc : c ≠ '/' := by
        intro heq
        subst heq
        exact hslash (List.mem_of_getLast? hlast)
      show some (c == '/') = some false
      rw [beq_eq_false_iff_ne.mpr hc]

/-- Alike texts are both empty, or end both in a slash, or neither. -/
theorem Alike.ending_eq {s t : String} (h : N.Alike s t) : ending s = ending t := by
  induction h with
  | same s => rfl
  | name h =>
      -- Paired names are not empty and have no slash.
      have hproper := N.proper _ h
      rw [ending_of_isName hproper.1, ending_of_isName hproper.2]
  | append _ _ ih ih' => rw [ending_append, ending_append, ih, ih']

/-! ## §2. Paths and lines. -/

theorem isEmpty_eq_ending (s : String) : s.toList.isEmpty = (ending s).isNone := by
  unfold ending
  cases hs : s.toList with
  | nil => rfl
  | cons c cs =>
      rw [List.getLast?_cons]
      rfl

theorem endsInSlash_eq_ending (p : Path) : p.endsInSlash = (ending p.text == some true) := by
  unfold Path.endsInSlash ending
  cases p.text.toList.getLast? with
  | none => rfl
  | some c => cases hc : c == '/' <;> simp_all

/-- **Joining keeps paths alike.** -/
theorem alike_join {p q : Path} (child : Path) (h : N.Alike p.text q.text) :
    N.Alike (p.join child).text (q.join child).text := by
  -- How two paths are joined depends on the end of the first one only.
  have hend := h.ending_eq
  unfold Path.join
  rw [isEmpty_eq_ending, isEmpty_eq_ending, endsInSlash_eq_ending, endsInSlash_eq_ending, hend]
  split
  · exact .same _
  · split
    · exact .append h (.same _)
    · exact .append (.append h (.same _)) (.same _)

/-- Texts joined by a separator are alike, if they are alike one by one. -/
theorem alike_intercalate (sep : String) {x y : String} {xs ys : List String}
    (hx : N.Alike x y) (h : List.Forall₂ N.Alike xs ys) :
    N.Alike (String.intercalate sep (x :: xs)) (String.intercalate sep (y :: ys)) := by
  induction h generalizing x y with
  | nil =>
      rw [String.intercalate_singleton, String.intercalate_singleton]
      exact hx
  | cons hab _ ih =>
      rw [String.intercalate_cons_cons, String.intercalate_cons_cons]
      exact .append (.append hx (.same sep)) (ih hab)

/-- Commands that differ in paired names only. -/
structure Commands (N : Renaming) (c d : Command) : Prop where
  program : c.program = d.program
  arguments : List.Forall₂ N.Alike c.arguments d.arguments
  directory : Option.Rel (fun p q => N.Alike p.text q.text) c.directory d.directory

/-- **Alike commands have alike command lines.** -/
theorem alike_line {c d : Command} (h : N.Commands c d) : N.Alike c.line d.line := by
  unfold Command.line
  rw [h.program]
  exact alike_intercalate " " (.same d.program) h.arguments

/-! ## §3. Failures. -/

/-- Failures that differ in paired names only. -/
inductive Failures (N : Renaming) : Failure → Failure → Prop
  | same (e : Failure) : Failures N e e
  | command {line line' : String} (h : N.Alike line line') (code : Option Int) :
      Failures N (.commandFailed line code) (.commandFailed line' code)
  | io {p q : Path} (h : N.Alike p.text q.text) (fault : FileFault) :
      Failures N (.io (.atPath fault p)) (.io (.atPath fault q))

/-- **A renaming is a likeness.** -/
def likeness (N : Renaming) : Likeness where
  text := N.Alike
  command := N.Commands
  failure := N.Failures
  notice m n := m = n ∧ m.isStatus = true
  text_refl := .same
  text_join := alike_join
  command_of _ _ _ _ _ hxs hd := ⟨rfl, hxs, hd⟩
  failure_refl := .same
  notice_refl h := ⟨rfl, h⟩

end Renaming

end Provision
