/-
  Provision.Proofs.NewNames
  ─────────────────────────
  **WHAT IS CREATED CAN BE TAKEN BACK.**

  A file system is rooted when every place that is taken has a directory above
  it.  A new name is free, and in a rooted file system nothing lies below a
  free name.  So whatever is put in under a new name leads there by the same
  path, and when it is removed the file system is the one from before.

  Main results:

    `Rooted.insert`          putting in a new name keeps a file system rooted
    `walk_of_taken`          a walk only passes through places that are taken
    `resolve_insert`         no path is resolved otherwise afterwards
    `freshPath_eq_ok`        what is known about a new name
    `remove_insert_new`      removing what was created restores the rest
-/
import Provision.FileSystem

namespace Provision

namespace FileSystem

/-! ## §1. Rooted file systems. -/

/-- Every place that is taken has a directory above it. -/
def Rooted (fs : FileSystem) : Prop :=
  ∀ p ∈ fs.entries, ∃ mode, fs.get? p.1.dropLast = some (.directory mode)

theorem get?_of_ne_nil (fs : FileSystem) {names : List String} (h : names ≠ []) :
    fs.get? names = fs.entries.lookup names := by
  cases names with
  | nil => exact absurd rfl h
  | cons name rest => rfl

/-- A free place is not the root. -/
theorem ne_nil_of_free {fs : FileSystem} {names : List String} (h : fs.get? names = none) :
    names ≠ [] := by
  intro hnil
  subst hnil
  cases h

/-- A place with an entry is taken. -/
theorem get?_ne_none {fs : FileSystem} {p : List String × Entry} (h : p ∈ fs.entries) :
    fs.get? p.1 ≠ none := by
  intro hnone
  rw [get?_of_ne_nil fs (ne_nil_of_free hnone), List.lookup_eq_none_iff] at hnone
  have hself := hnone p h
  rw [bne_self_eq_false] at hself
  cases hself

/-- A taken place other than the root has an entry. -/
theorem exists_entry {fs : FileSystem} {names : List String} {e : Entry} (hne : names ≠ [])
    (h : fs.get? names = some e) : (names, e) ∈ fs.entries := by
  rw [get?_of_ne_nil fs hne] at h
  obtain ⟨l₁, l₂, heq, -⟩ := List.lookup_eq_some_iff.mp h
  rw [heq]
  exact List.mem_append_right _ (List.mem_cons_self ..)

/-- **Above every taken place there are directories only.** -/
theorem Rooted.directory_above {fs : FileSystem} (h : fs.Rooted) {above : List String} :
    ∀ {below : List String}, fs.get? below ≠ none → above <+: below → above ≠ below →
      ∃ mode, fs.get? above = some (.directory mode) := by
  intro below
  -- Every step goes up by one directory, so that the induction is on the length.
  induction hlen : below.length generalizing below with
  | zero =>
      intro _ hprefix hne
      have hbelow : below = [] := List.length_eq_zero_iff.mp hlen
      subst hbelow
      exact absurd (List.prefix_nil.mp hprefix) hne
  | succ n ih =>
      intro htaken hprefix hne
      have hbelow : below ≠ [] := by
        intro hnil
        rw [hnil] at hlen
        cases hlen
      obtain ⟨e, he⟩ := Option.ne_none_iff_exists'.mp htaken
      obtain ⟨mode, hmode⟩ := h _ (exists_entry hbelow he)
      -- Either the place is the parent, or it is above the parent.
      have hsplit := List.dropLast_concat_getLast hbelow
      rw [← hsplit] at hprefix hne
      rcases List.prefix_concat_iff.mp hprefix with heq | hparent
      · exact absurd heq hne
      · by_cases hself : above = below.dropLast
        · subst hself
          exact ⟨mode, hmode⟩
        · refine @ih below.dropLast ?_ ?_ hparent hself
          · rw [List.length_dropLast, hlen]
            omega
          · rw [hmode]
            exact Option.some_ne_none _

/-- Nothing lies below a free place. -/
theorem Rooted.free_below {fs : FileSystem} (h : fs.Rooted) {names : List String}
    (hfree : fs.get? names = none) : ∀ p ∈ fs.entries, names.isPrefixOf p.1 = false := by
  intro p hp
  apply Bool.eq_false_iff.mpr
  intro hprefix
  -- Otherwise the free place would be a directory above the entry.
  have hne : names ≠ p.1 := by
    intro heq
    exact get?_ne_none hp (heq ▸ hfree)
  obtain ⟨mode, hmode⟩ :=
    h.directory_above (get?_ne_none hp) (List.isPrefixOf_iff_prefix.mp hprefix) hne
  rw [hfree] at hmode
  cases hmode

/-! ## §2. Putting in a new name. -/

/-- What is found behind a filter on the names. -/
theorem lookup_filter (keep : List String → Bool) (other : List String)
    (entries : List (List String × Entry)) :
    (entries.filter fun p => keep p.1).lookup other
      = if keep other then entries.lookup other else none := by
  induction entries with
  | nil =>
      rw [List.filter_nil, List.lookup_nil, ite_self]
  | cons p entries ih =>
      rw [List.filter_cons, List.lookup_cons]
      by_cases hp : other = p.1
      · subst hp
        rw [beq_self_eq_true]
        by_cases hkeep : keep p.1 = true
        · rw [if_pos hkeep, if_pos hkeep, List.lookup_cons, beq_self_eq_true]
        · rw [if_neg hkeep, ih, if_neg hkeep, if_neg hkeep]
      · rw [beq_eq_false_iff_ne.mpr hp, ← ih]
        split
        · rw [List.lookup_cons, beq_eq_false_iff_ne.mpr hp]
        · rfl

/-- Another place holds what it held. -/
theorem get?_insert {fs : FileSystem} {names other : List String} {e : Entry}
    (h : other ≠ names) : (fs.insert names e).get? other = fs.get? other := by
  cases other with
  | nil => rfl
  | cons name rest =>
      show List.lookup (name :: rest) ((names, e) :: fs.entries.filter fun p => p.1 != names)
        = List.lookup (name :: rest) fs.entries
      rw [List.lookup_cons, beq_eq_false_iff_ne.mpr h]
      exact (lookup_filter (· != names) _ fs.entries).trans (if_pos (bne_iff_ne.mpr h))

/-- **Putting in a new name keeps a file system rooted.** -/
theorem Rooted.insert {fs : FileSystem} (h : fs.Rooted) {names : List String} {e : Entry}
    {mode : Nat} (hfree : fs.get? names = none)
    (hparent : fs.get? names.dropLast = some (.directory mode)) : (fs.insert names e).Rooted := by
  -- A directory is not at the free place, so that it is found as before.
  have hkept : ∀ place mode, fs.get? place = some (.directory mode) →
      (fs.insert names e).get? place = some (.directory mode) := by
    intro place mode hplace
    rw [get?_insert, hplace]
    intro heq
    rw [heq, hfree] at hplace
    cases hplace
  intro p hp
  rcases List.mem_cons.mp hp with rfl | hp
  · exact ⟨mode, hkept _ _ hparent⟩
  · obtain ⟨mode', hmode'⟩ := h p (List.mem_filter.mp hp).1
    exact ⟨mode', hkept _ _ hmode'⟩

/-- Where a step of a walk leads. -/
def next (here : List String) (name : String) : List String :=
  if name == "" || name == "." then here
  else if name == ".." then here.dropLast
  else here ++ [name]

/-- Every step of a walk is made from a directory. -/
theorem walk_cons_eq_ok {fs : FileSystem} {here rest there : List String} {name : String} :
    fs.walk here (name :: rest) = .ok there ↔
      (∃ mode, fs.get? here = some (.directory mode)) ∧ fs.walk (next here name) rest = .ok there := by
  have hsteps : ∀ {mode}, fs.get? here = some (.directory mode) →
      fs.walk here (name :: rest) = fs.walk (next here name) rest := by
    intro mode hhere
    rw [walk, hhere, next]
    dsimp only
    split
    · rfl
    · split <;> rfl
  constructor
  · intro h
    cases hhere : fs.get? here with
    | none =>
        rw [walk, hhere] at h
        cases h
    | some x =>
        cases x with
        | file content mode =>
            rw [walk, hhere] at h
            cases h
        | directory mode => exact ⟨⟨mode, rfl⟩, hsteps hhere ▸ h⟩
  · rintro ⟨⟨mode, hhere⟩, h⟩
    rw [hsteps hhere, h]

/-- **A walk only passes through places that are taken**: where these hold what
they held, it leads where it led. -/
theorem walk_of_taken {fs fs' : FileSystem}
    (h : ∀ place, fs.get? place ≠ none → fs'.get? place = fs.get? place)
    {here rest there : List String} (hwalk : fs.walk here rest = .ok there) :
    fs'.walk here rest = .ok there := by
  induction rest generalizing here with
  | nil => exact hwalk
  | cons name rest ih =>
      obtain ⟨⟨mode, hhere⟩, hrest⟩ := walk_cons_eq_ok.mp hwalk
      have htaken : fs.get? here ≠ none := by
        rw [hhere]
        exact Option.some_ne_none _
      exact walk_cons_eq_ok.mpr ⟨⟨mode, (h here htaken).trans hhere⟩, ih hrest⟩

theorem resolve_of_taken {fs fs' : FileSystem}
    (h : ∀ place, fs.get? place ≠ none → fs'.get? place = fs.get? place) {cwd place : List String}
    {p : Path} (hresolve : fs.resolve cwd p = .ok place) : fs'.resolve cwd p = .ok place := by
  unfold resolve at hresolve ⊢
  split at hresolve
  · cases hresolve
  · rw [if_neg ‹_›]
    exact walk_of_taken h hresolve

/-- **No path is resolved otherwise afterwards.** -/
theorem resolve_insert {fs : FileSystem} {cwd names place : List String} {e : Entry} {p : Path}
    (hfree : fs.get? names = none) (h : fs.resolve cwd p = .ok place) :
    (fs.insert names e).resolve cwd p = .ok place := by
  refine resolve_of_taken (fun other htaken => get?_insert ?_) h
  rintro rfl
  exact htaken hfree

/-! ## §3. New names. -/

/-- **What is known about a new name**: its path leads to a free place in a
directory. -/
theorem freshPath_eq_ok {fs : FileSystem} {cwd : List String} {parent : Path}
    {before after : String} {middles : List String} {path : Path} {names : List String}
    (h : fs.freshPath cwd parent before after middles = .ok (path, names)) :
    fs.resolve cwd path = .ok names ∧ fs.get? names = none
      ∧ ∃ mode, fs.get? names.dropLast = some (.directory mode) := by
  induction middles with
  | nil => cases h
  | cons middle more ih =>
      unfold freshPath at h
      dsimp only at h
      split at h
      · cases h
      · rename_i place hplace
        split at h
        · rename_i mode hparent hfree
          injection h with h
          injection h with hpath hnames
          subst hpath hnames
          exact ⟨hplace, hfree, mode, hparent⟩
        · exact ih h
        · cases h
        · cases h

/-- **Removing what was created restores the rest.** -/
theorem remove_insert_new {fs : FileSystem} (h : fs.Rooted) {names : List String} {e : Entry}
    (hfree : fs.get? names = none) : (fs.insert names e).remove names = fs :=
  remove_insert_fresh (h.free_below hfree)

end FileSystem

end Provision
