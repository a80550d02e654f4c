/-
  Provision.Proofs.Confinement
  ────────────────────────────
  **WHAT STAYS BELOW A DIRECTORY.**

  Two file systems are the same outside a place if every other place that is
  neither it nor below it holds the same in both.  Such changes add up, and the
  place can be removed afterwards without a trace.

  A path that is joined to another one leads below it if it is relative and no
  step of it climbs above where it began.  That is a property of its text: what
  the file system holds decides whether a path can be walked, and not where it
  leads.

  Main results:

    `resolve_sameOutside`    a path to a new place is not moved by changes there
    `resolve_join`           a relative path is walked from where the first one leads
    `prefix_of_walk`         a path that never climbs leads below its start
    `remove_sameOutside`     removing a new place takes all changes back
-/
import Provision.Proofs.NewNames
import Provision.Proofs.Pieces

namespace Provision

/-! ## §1. Changes at one place. -/

namespace FileSystem

/-- The two file systems differ at most at the place and below it. -/
def SameOutside (place : List String) (fs fs' : FileSystem) : Prop :=
  ∀ other, ¬ place <+: other → fs'.get? other = fs.get? other

theorem SameOutside.trans {place : List String} {fs fs' fs'' : FileSystem}
    (h : SameOutside place fs fs') (h' : SameOutside place fs' fs'') :
    SameOutside place fs fs'' := fun other hother => (h' other hother).trans (h other hother)

theorem sameOutside_insert (fs : FileSystem) (place : List String) (e : Entry) :
    SameOutside place fs (fs.insert place e) := by
  intro other hother
  apply get?_insert
  rintro rfl
  exact hother (List.prefix_refl _)

/-- What is free stays out of the way of every walk. -/
theorem resolve_sameOutside {place cwd names : List String} {fs fs' : FileSystem} {p : Path}
    (hfree : ∀ other, place <+: other → fs.get? other = none) (hsame : SameOutside place fs fs')
    (h : fs.resolve cwd p = .ok names) : fs'.resolve cwd p = .ok names := by
  refine resolve_of_taken (fun other htaken => hsame other fun hbelow => ?_) h
  exact htaken (hfree other hbelow)

/-- In a rooted file system a free place has nothing below it. -/
theorem Rooted.get?_below {fs : FileSystem} (h : fs.Rooted) {place : List String}
    (hfree : fs.get? place = none) {other : List String} (hbelow : place <+: other) :
    fs.get? other = none := by
  apply Option.eq_none_iff_forall_ne_some.mpr
  intro e he
  have hne : other ≠ [] := by
    rintro rfl
    exact ne_nil_of_free hfree (List.prefix_nil.mp hbelow)
  have hnot := h.free_below hfree _ (exists_entry hne he)
  rw [List.isPrefixOf_iff_prefix.mpr hbelow] at hnot
  cases hnot

/-- What a place holds after a removal. -/
theorem get?_remove (fs : FileSystem) {names other : List String} (h : other ≠ []) :
    (fs.remove names).get? other = if names.isPrefixOf other then none else fs.get? other := by
  rw [get?_of_ne_nil _ h, get?_of_ne_nil _ h]
  refine (lookup_filter (fun place => !names.isPrefixOf place) other fs.entries).trans ?_
  cases names.isPrefixOf other <;> rfl

/-- **Removing a new place takes all changes back** that were made at it and
below it. -/
theorem remove_sameOutside {place : List String} {fs fs' : FileSystem}
    (hfree : ∀ other, place <+: other → fs.get? other = none) (hsame : SameOutside place fs fs')
    (other : List String) : (fs'.remove place).get? other = fs.get? other := by
  by_cases hroot : other = []
  · subst hroot
    rfl
  rw [get?_remove fs' hroot]
  by_cases hbelow : place <+: other
  · rw [if_pos (List.isPrefixOf_iff_prefix.mpr hbelow), hfree other hbelow]
  · rw [if_neg (fun h => hbelow (List.isPrefixOf_iff_prefix.mp h)), hsame other hbelow]

/-! ## §2. Walks. -/

/-- **A walk is cut anywhere.** -/
theorem walk_append_eq_ok {fs : FileSystem} {here first rest there : List String} :
    fs.walk here (first ++ rest) = .ok there ↔
      ∃ middle, fs.walk here first = .ok middle ∧ fs.walk middle rest = .ok there := by
  induction first generalizing here with
  | nil =>
      constructor
      · exact fun h => ⟨here, rfl, h⟩
      · rintro ⟨middle, hfirst, hrest⟩
        rw [Except.ok.inj hfirst]
        exact hrest
  | cons name first ih =>
      rw [List.cons_append, walk_cons_eq_ok, ih]
      constructor
      · rintro ⟨hhere, middle, hfirst, hrest⟩
        exact ⟨middle, walk_cons_eq_ok.mpr ⟨hhere, hfirst⟩, hrest⟩
      · rintro ⟨middle, hfirst, hrest⟩
        obtain ⟨hhere, hfirst⟩ := walk_cons_eq_ok.mp hfirst
        exact ⟨hhere, middle, hfirst, hrest⟩

/-- No step climbs above where the path began, of which `depth` names are left. -/
def neverClimbs : Nat → List String → Bool
  | _, [] => true
  | depth, name :: rest =>
      if name == "" || name == "." then neverClimbs depth rest
      else if name == ".." then
        match depth with
        | 0 => false
        | depth + 1 => neverClimbs depth rest
      else neverClimbs (depth + 1) rest

/-- Another name in the last place climbs no more, unless it is the step
upwards. -/
theorem neverClimbs_last {front : List String} {last name : String} (hname : name ≠ "..") :
    ∀ {depth : Nat}, neverClimbs depth (front ++ [last]) = true →
      neverClimbs depth (front ++ [name]) = true := by
  induction front with
  | nil =>
      intro depth _
      show neverClimbs depth [name] = true
      unfold neverClimbs
      split
      · rfl
      · rw [if_neg (fun h => hname (beq_iff_eq.mp h))]
        rfl
  | cons first front ih =>
      intro depth h
      rw [List.cons_append] at h ⊢
      unfold neverClimbs at h ⊢
      split
      · rw [if_pos ‹_›] at h
        exact ih h
      · rw [if_neg ‹_›] at h
        split
        · rw [if_pos ‹_›] at h
          cases depth with
          | zero => cases h
          | succ depth => exact ih h
        · rw [if_neg ‹_›] at h
          exact ih h

/-- A step that does not climb stays below the start. -/
theorem next_neverClimbs {start below rest : List String} {name : String}
    (h : neverClimbs below.length (name :: rest) = true) :
    ∃ below', next (start ++ below) name = start ++ below'
      ∧ neverClimbs below'.length rest = true := by
  unfold neverClimbs at h
  unfold next
  split at h
  · rw [if_pos ‹_›]
    exact ⟨below, rfl, h⟩
  · rw [if_neg ‹_›]
    split at h
    · rw [if_pos ‹_›]
      -- There is a name left to go back over.
      cases below with
      | nil => cases h
      | cons first below =>
          refine ⟨(first :: below).dropLast, List.dropLast_append_cons, ?_⟩
          rw [List.length_dropLast]
          exact h
    · rw [if_neg ‹_›]
      refine ⟨below ++ [name], List.append_assoc .., ?_⟩
      rw [List.length_append]
      exact h

/-- **A path that never climbs leads below its start.** -/
theorem prefix_of_walk {fs : FileSystem} {start steps below there : List String}
    (h : neverClimbs below.length steps = true)
    (hwalk : fs.walk (start ++ below) steps = .ok there) : start <+: there := by
  induction steps generalizing below with
  | nil =>
      rw [← Except.ok.inj hwalk]
      exact List.prefix_append start below
  | cons name rest ih =>
      obtain ⟨-, hrest⟩ := walk_cons_eq_ok.mp hwalk
      obtain ⟨below', hnext, hclimbs⟩ := next_neverClimbs h
      rw [hnext] at hrest
      exact ih hclimbs hrest

end FileSystem

/-! ## §3. Joined paths. -/

open Text

namespace Path

/-- The pieces of a joined path: a slash at the end of the first path leaves an
empty piece there, which the joined path has not. -/
theorem pieces_join {p child : Path} (hchild : child.isAbsolute = false) (hp : p.text ≠ "") :
    (p.join child).isAbsolute = p.isAbsolute
      ∧ ∃ front, pieces '/' (p.join child).text = front ++ pieces '/' child.text
        ∧ (pieces '/' p.text = front ∨ pieces '/' p.text = front ++ [""]) := by
  obtain ⟨c, cs, htext⟩ : ∃ c cs, p.text.toList = c :: cs := by
    apply List.exists_cons_of_ne_nil
    intro hnil
    exact hp (String.toList_eq_nil_iff.mp hnil)
  unfold join pieces
  rw [hchild, if_neg Bool.false_ne_true, htext, List.isEmpty_cons, Bool.false_or]
  split
  case isTrue hslash =>
    -- The slash that is there is the one between the two.
    obtain ⟨front, hfront⟩ : ∃ front, c :: cs = front ++ ['/'] := by
      unfold endsInSlash at hslash
      rw [htext, beq_iff_eq] at hslash
      exact List.getLast?_eq_some_iff.mp hslash
    refine ⟨?_, (splitAll '/' front).map String.ofList, ?_, .inr ?_⟩
    · unfold isAbsolute
      rw [String.toList_append, htext]
      rfl
    · rw [String.toList_append, htext, hfront, List.append_assoc]
      show (splitAll '/' (front ++ '/' :: child.text.toList)).map _ = _
      rw [splitAll_append, List.map_append]
    · rw [hfront, splitAll_append, List.map_append]
      rfl
  case isFalse =>
    refine ⟨?_, (splitAll '/' (c :: cs)).map String.ofList, ?_, .inl rfl⟩
    · unfold isAbsolute
      rw [String.toList_append, String.toList_append, htext]
      rfl
    · rw [String.toList_append, String.toList_append, htext, List.append_assoc]
      show (splitAll '/' ((c :: cs) ++ '/' :: child.text.toList)).map _ = _
      rw [splitAll_append, List.map_append]

end Path

namespace FileSystem

theorem resolve_eq_ok {fs : FileSystem} {cwd there : List String} {p : Path}
    (h : fs.resolve cwd p = .ok there) :
    p.text ≠ "" ∧ fs.walk (if p.isAbsolute then [] else cwd) (pieces '/' p.text) = .ok there := by
  unfold resolve at h
  split at h
  · cases h
  · exact ⟨fun hempty => absurd (beq_iff_eq.mpr hempty) ‹_›, h⟩

/-- **A relative path is walked from where the first one leads.** -/
theorem resolve_join {fs : FileSystem} {cwd there names : List String} {p child : Path}
    (hchild : child.isAbsolute = false) (hp : fs.resolve cwd p = .ok there)
    (h : fs.resolve cwd (p.join child) = .ok names) :
    fs.walk there (pieces '/' child.text) = .ok names := by
  obtain ⟨hne, hwalk⟩ := resolve_eq_ok hp
  obtain ⟨habsolute, front, hpieces, hfront⟩ := Path.pieces_join hchild hne
  obtain ⟨-, hjoined⟩ := resolve_eq_ok h
  rw [habsolute, hpieces] at hjoined
  obtain ⟨middle, hfirst, hrest⟩ := walk_append_eq_ok.mp hjoined
  have hmiddle : there = middle := by
    rcases hfront with hfront | hfront
    · rw [hfront, hfirst] at hwalk
      exact (Except.ok.inj hwalk).symm
    · rw [hfront] at hwalk
      obtain ⟨middle', hfirst', hlast⟩ := walk_append_eq_ok.mp hwalk
      rw [hfirst] at hfirst'
      obtain ⟨-, hlast⟩ := walk_cons_eq_ok.mp hlast
      rw [Except.ok.inj hfirst']
      exact (Except.ok.inj hlast).symm
  rw [hmiddle]
  exact hrest

/-- **A relative path that never climbs leads below the path that it is joined
to.** -/
theorem prefix_of_resolve_join {fs : FileSystem} {cwd there names : List String} {p child : Path}
    (hchild : child.isAbsolute = false) (hclimbs : neverClimbs 0 (pieces '/' child.text) = true)
    (hp : fs.resolve cwd p = .ok there) (h : fs.resolve cwd (p.join child) = .ok names) :
    there <+: names := by
  have hwalk := resolve_join hchild hp h
  rw [← List.append_nil there] at hwalk
  have hbelow : neverClimbs ([] : List String).length (pieces '/' child.text) = true := hclimbs
  exact prefix_of_walk hbelow hwalk

end FileSystem

end Provision
