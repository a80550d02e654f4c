/-
  Provision.Proofs.VersionSearch
  ──────────────────────────────
  **WHAT THE SEARCH FOR A VERSION FINDS.**

  A search tries a pattern at every place of a text, from left to right, and
  takes the preferred way at the first place that has one.  Where a pattern is
  a word, or as many characters of a set as there are, the ways to match are
  known without a look at the matcher: a word matches in one way or in none,
  and a greedy run prefers to end where no character of the set follows.  Every
  other end of a run stands before a character of the set.

  What a tool has written is searched on standard output and, where that has
  nothing, on standard error.  So what is found is the leftmost way to match in
  one of two texts.

  Main results:

    `leftmost_eq_some_iff`   the first place that has a way to match
    `ends_literal`           a word matches in one way or in none
    `ends_plus`              the preferred end of a run, and all the others
    `groups_behind_word`     what a group behind a word remembers
    `firstGroup?_eq`         what is found in the output of a tool
-/
import Provision.ToolVersion

namespace Provision

namespace Text

/-! ## §1. The first place of a text. -/

variable {β : Type}

/-- What `f` gives at the leftmost place where it gives something. -/
def leftmost (f : List Char → Option β) : List Char → Option β
  | [] => f []
  | c :: cs => (f (c :: cs)).or (leftmost f cs)

theorem leftmost_eq_none_iff {f : List Char → Option β} {cs : List Char} :
    leftmost f cs = none ↔ ∀ before rest, cs = before ++ rest → f rest = none := by
  induction cs with
  | nil =>
      constructor
      · intro h before rest heq
        rw [(List.append_eq_nil_iff.mp heq.symm).2]
        exact h
      · exact fun h => h [] [] rfl
  | cons c cs ih =>
      rw [leftmost, Option.or_eq_none_iff, ih]
      constructor
      · rintro ⟨hhere, hlater⟩ before rest heq
        cases before with
        | nil =>
            rw [List.nil_append] at heq
            exact heq ▸ hhere
        | cons d before => exact hlater before rest (List.cons.inj heq).2
      · intro h
        exact ⟨h [] _ rfl, fun before rest heq => h (c :: before) rest (by rw [heq]; rfl)⟩

/-- **The first place that has a way to match.** -/
theorem leftmost_eq_some_iff {f : List Char → Option β} {cs : List Char} {x : β} :
    leftmost f cs = some x ↔
      ∃ before rest, cs = before ++ rest ∧ f rest = some x ∧
        ∀ before' rest', cs = before' ++ rest' → before'.length < before.length →
          f rest' = none := by
  induction cs with
  | nil =>
      constructor
      · intro h
        exact ⟨[], [], rfl, h, fun _ _ _ hlt => absurd hlt (Nat.not_lt_zero _)⟩
      · rintro ⟨before, rest, heq, hrest, -⟩
        rw [(List.append_eq_nil_iff.mp heq.symm).2] at hrest
        exact hrest
  | cons c cs ih =>
      rw [leftmost]
      constructor
      · intro h
        cases hhere : f (c :: cs) with
        | some y =>
            rw [hhere, Option.some_or] at h
            exact ⟨[], c :: cs, rfl, hhere.trans h, fun _ _ _ hlt => absurd hlt (Nat.not_lt_zero _)⟩
        | none =>
            rw [hhere, Option.none_or] at h
            obtain ⟨before, rest, heq, hrest, hfirst⟩ := ih.mp h
            refine ⟨c :: before, rest, by rw [heq]; rfl, hrest, ?_⟩
            intro before' rest' heq' hlt
            cases before' with
            | nil =>
                rw [List.nil_append] at heq'
                exact heq' ▸ hhere
            | cons d before' =>
                exact hfirst before' rest' (List.cons.inj heq').2 (Nat.lt_of_succ_lt_succ hlt)
      · rintro ⟨before, rest, heq, hrest, hfirst⟩
        cases before with
        | nil =>
            rw [heq, List.nil_append, hrest, Option.some_or]
        | cons d before =>
            have hhere := hfirst [] (c :: cs) rfl (Nat.zero_lt_succ _)
            rw [hhere, Option.none_or]
            refine ih.mpr ⟨before, rest, (List.cons.inj heq).2, hrest, ?_⟩
            intro before' rest' heq' hlt
            exact hfirst (c :: before') rest' (by rw [heq']; rfl) (Nat.succ_lt_succ hlt)

theorem leftmost_map {γ : Type} (f : List Char → Option β) (g : β → γ) (cs : List Char) :
    leftmost (fun rest => (f rest).map g) cs = (leftmost f cs).map g := by
  induction cs with
  | nil => rfl
  | cons c cs ih =>
      rw [leftmost, leftmost, ih]
      cases f (c :: cs) <;> rfl

/-- What follows the first occurrence of a word, as a search. -/
theorem afterFirst?_eq_leftmost (word cs : List Char) :
    afterFirst? word cs = leftmost
      (fun rest => if word.isPrefixOf rest then some (rest.drop word.length) else none) cs := by
  induction cs with
  | nil => cases word <;> rfl
  | cons c cs ih =>
      rw [afterFirst?, leftmost, ih]
      split <;> rfl

end Text

open Text

namespace Pattern

/-! ## §2. Groups of a match. -/

/-- **What the groups of a match hold**, if that does not depend on what stands
before a place. -/
theorem search_groups {p : Pattern} {f : List Char → Option (List (Nat × List Char))}
    (h : ∀ before cs, ((p.ends ⟨before, cs, []⟩).head?).map Place.groups = f cs)
    (before : Option Char) (cs : List Char) :
    (p.search before cs).map Place.groups = leftmost f cs := by
  induction cs generalizing before with
  | nil => exact h before []
  | cons c cs ih =>
      rw [leftmost, ← h before (c :: cs), ← ih (some c), search]
      cases (p.ends ⟨before, c :: cs, []⟩).head? <;> rfl

/-! ## §3. Words and runs. -/

/-- The place behind a text that begins at a place. -/
def Place.behind (s : Place) (word : List Char) : Place :=
  { s with before := word.getLast?.or s.before, rest := s.rest.drop word.length }

theorem Place.behind_cons (before : Option Char) (c : Char) (cs word : List Char)
    (groups : List (Nat × List Char)) :
    Place.behind ⟨before, c :: cs, groups⟩ (c :: word)
      = Place.behind ⟨some c, cs, groups⟩ word := by
  unfold Place.behind
  rw [List.getLast?_cons]
  cases word.getLast? <;> rfl

/-- Behind two texts in turn is behind both together. -/
theorem Place.behind_append (s : Place) (u v : List Char) :
    (s.behind u).behind v = s.behind (u ++ v) := by
  unfold Place.behind
  rw [List.getLast?_append, List.drop_drop, List.length_append, Option.or_assoc]

/-- Behind a run stands what the run does not take. -/
theorem Place.rest_behind_run (s : Place) (p : Char → Bool) :
    (s.behind (s.rest.takeWhile p)).rest = s.rest.dropWhile p := by
  obtain ⟨before, rest, groups⟩ := s
  have hcut : rest.takeWhile p ++ rest.dropWhile p = rest := List.takeWhile_append_dropWhile
  calc rest.drop (rest.takeWhile p).length
      = (rest.takeWhile p ++ rest.dropWhile p).drop (rest.takeWhile p).length := by rw [hcut]
    _ = rest.dropWhile p := List.drop_left

/-- What a group remembers of a text that begins at a place. -/
theorem Place.taken_behind {s : Place} {word : List Char} (h : word <+: s.rest) :
    s.rest.take (s.rest.length - (s.behind word).rest.length) = word := by
  obtain ⟨after, hrest⟩ := h
  unfold Place.behind
  dsimp only
  rw [← hrest, List.drop_left, List.length_append, Nat.add_sub_cancel, List.take_left]

theorem ends_seq (p q : Pattern) (s : Place) : (seq p q).ends s = (p.ends s).flatMap q.ends := rfl

theorem holds_single (c d : Char) : (CharSet.single c).holds d = (d == c) := by
  unfold CharSet.single CharSet.holds
  rw [Bool.eq_iff_iff, Bool.and_eq_true, decide_eq_true_eq, decide_eq_true_eq, beq_iff_eq]
  exact ⟨fun h => Char.le_antisymm h.2 h.1, fun h => h ▸ ⟨Char.le_refl _, Char.le_refl _⟩⟩

/-- **A word matches in one way or in none.** -/
theorem ends_literal (word : List Char) (s : Place) :
    (literal word).ends s = if word.isPrefixOf s.rest then [s.behind word] else [] := by
  induction word generalizing s with
  | nil => rfl
  | cons c word ih =>
      obtain ⟨before, rest, groups⟩ := s
      rw [literal, ends_seq]
      cases rest with
      | nil => rfl
      | cons d rest =>
          show (if (CharSet.single c).holds d then _ else _ : List Place).flatMap _ = _
          rw [holds_single]
          by_cases hd : d = c
          · subst hd
            rw [if_pos (beq_self_eq_true d), List.flatMap_singleton, ih, Place.behind_cons]
            show (if word.isPrefixOf rest then _ else _) = if _ then _ else _
            rw [List.isPrefixOf_cons_cons_self]
          · have hne : (c == d) = false := beq_false_of_ne (Ne.symm hd)
            rw [if_neg (fun heq => hd (beq_iff_eq.mp heq))]
            show ([] : List Place).flatMap _ = if (c == d && word.isPrefixOf rest) then _ else _
            rw [hne, Bool.false_and]
            rfl

/-- **The preferred end of a run, and all the others**: the run ends where no
character of the set follows, or else before a character of the set. -/
theorem ends_run (set : CharSet) (s : Place) :
    ∃ others, (star true (.one set)).ends s = s.behind (s.rest.takeWhile set.holds) :: others
      ∧ ∀ t ∈ others, ∃ c, t.rest.head? = some c ∧ set.holds c = true := by
  obtain ⟨before, rest, groups⟩ := s
  -- The run goes on with its first character, so that the induction is on the rest.
  induction rest generalizing before with
  | nil =>
      refine ⟨[], ?_, fun t ht => absurd ht List.not_mem_nil⟩
      show iterate true (one set).ends _ = _
      rw [iterate]
      rfl
  | cons c rest ih =>
      show ∃ others, iterate true (one set).ends _ = _ ∧ _
      rw [iterate]
      by_cases hc : set.holds c = true
      · obtain ⟨others, hothers, hbefore⟩ := ih (some c)
        refine ⟨others ++ [⟨before, c :: rest, groups⟩], ?_, ?_⟩
        · have hone : (one set).ends ⟨before, c :: rest, groups⟩ = [⟨some c, rest, groups⟩] := by
            show (if set.holds c then _ else _) = _
            rw [if_pos hc]
          have hshorter : rest.length < (c :: rest).length := Nat.lt_succ_self _
          rw [hone, List.flatMap_singleton, if_pos rfl, dif_pos hshorter]
          show (star true (one set)).ends ⟨some c, rest, groups⟩ ++ _ = _
          rw [hothers, List.takeWhile_cons_of_pos hc, Place.behind_cons]
          rfl
        · intro t ht
          rcases List.mem_append.mp ht with ht | ht
          · exact hbefore t ht
          · exact ⟨c, by rw [List.mem_singleton.mp ht]; rfl, hc⟩
      · refine ⟨[], ?_, fun t ht => absurd ht List.not_mem_nil⟩
        have hone : (one set).ends ⟨before, c :: rest, groups⟩ = [] := by
          show (if set.holds c then _ else _) = _
          rw [if_neg hc]
        rw [hone, List.takeWhile_cons_of_neg hc]
        rfl

theorem ends_plus_eq_nil (set : CharSet) {s : Place} (h : s.rest.takeWhile set.holds = []) :
    (plus true (.one set)).ends s = [] := by
  obtain ⟨before, rest, groups⟩ := s
  rw [plus, ends_seq]
  cases rest with
  | nil => rfl
  | cons c rest =>
      have hc : ¬ set.holds c = true := by
        intro hc
        rw [List.takeWhile_cons_of_pos hc] at h
        cases h
      show (if set.holds c then _ else _ : List Place).flatMap _ = _
      rw [if_neg hc]
      rfl

/-- **The preferred end of a run of at least one character**, and all the
others. -/
theorem ends_plus (set : CharSet) {s : Place} (h : s.rest.takeWhile set.holds ≠ []) :
    ∃ others, (plus true (.one set)).ends s = s.behind (s.rest.takeWhile set.holds) :: others
      ∧ ∀ t ∈ others, ∃ c, t.rest.head? = some c ∧ set.holds c = true := by
  obtain ⟨before, rest, groups⟩ := s
  cases rest with
  | nil => exact absurd rfl h
  | cons c rest =>
      have hc : set.holds c = true := by
        by_cases hc : set.holds c = true
        · exact hc
        · exact absurd (List.takeWhile_cons_of_neg hc) h
      obtain ⟨others, hothers, hbefore⟩ := ends_run set ⟨some c, rest, groups⟩
      refine ⟨others, ?_, hbefore⟩
      rw [plus, ends_seq]
      show (if set.holds c then _ else _ : List Place).flatMap _ = _
      rw [if_pos hc, List.flatMap_singleton, hothers, List.takeWhile_cons_of_pos hc,
        Place.behind_cons]

/-- One character of a set, and then what follows it. -/
theorem ends_one_seq {set : CharSet} {s : Place} {c : Char} (hrest : s.rest.head? = some c)
    (hc : set.holds c = true) (q : Pattern) :
    (seq (.one set) q).ends s = q.ends (s.behind [c]) := by
  obtain ⟨before, rest, groups⟩ := s
  rw [ends_seq]
  cases rest with
  | nil => cases hrest
  | cons d rest =>
      obtain rfl := Option.some.inj hrest
      show (if set.holds d then _ else _ : List Place).flatMap _ = _
      rw [if_pos hc, List.flatMap_singleton]
      rfl

/-- Where another character stands, there is nothing to go on with. -/
theorem ends_one_seq_eq_nil {set : CharSet} {s : Place}
    (h : ∀ c, s.rest.head? = some c → set.holds c = false) (q : Pattern) :
    (seq (.one set) q).ends s = [] := by
  obtain ⟨before, rest, groups⟩ := s
  rw [ends_seq]
  cases rest with
  | nil => rfl
  | cons c rest =>
      show (if set.holds c then _ else _ : List Place).flatMap _ = _
      rw [h c rfl, if_neg Bool.false_ne_true]
      rfl

/-- **A word and then a group**: what the group remembers is what its pattern
prefers behind the word. -/
theorem groups_behind_word {β : Type} {p : Pattern} {f : List Char → Option β}
    {shown : β → List Char}
    (hp : ∀ s : Place, (p.ends s).head? = (f s.rest).map fun x => s.behind (shown x))
    (hfront : ∀ cs x, f cs = some x → shown x <+: cs) (word : List Char) (before : Option Char)
    (cs : List Char) :
    (((seq (literal word) (group 1 p)).ends ⟨before, cs, []⟩).head?).map Place.groups
      = (if word.isPrefixOf cs then f (cs.drop word.length) else none).map
          fun x => [(1, shown x)] := by
  rw [ends_seq, ends_literal]
  split
  · rw [List.flatMap_singleton]
    generalize hs : Place.behind ⟨before, cs, []⟩ word = s
    have hrest : cs.drop word.length = s.rest := by rw [← hs]; rfl
    have hgroups : s.groups = [] := by rw [← hs]; rfl
    rw [hrest]
    show (((p.ends s).map _).head?).map _ = _
    rw [List.head?_map, hp]
    cases hfound : f s.rest with
    | none => rfl
    | some x =>
        show some ((1, _) :: (s.behind _).groups) = some [(1, _)]
        rw [Place.taken_behind (hfront _ _ hfound)]
        show some ((1, _) :: s.groups) = _
        rw [hgroups]
  · rfl

end Pattern

/-! ## §4. The output of a tool. -/

/-- **What is found in the output of a tool**: the leftmost occurrence on
standard output or, if there is none, on standard error. -/
theorem Captured.firstGroup?_eq {β : Type} {p : Pattern} {f : List Char → Option β}
    {shown : β → List Char}
    (h : ∀ before cs, ((p.ends ⟨before, cs, []⟩).head?).map Pattern.Place.groups
      = (f cs).map fun x => [(1, shown x)]) (r : Captured) :
    r.firstGroup? p
      = ((leftmost f r.stdout.toList).or (leftmost f r.stderr.toList)).map
          fun x => trimmed (String.ofList (shown x)) := by
  have hmatch : ∀ text : String, ((p.firstMatch? text).map Pattern.Place.groups)
      = (leftmost f text.toList).map fun x => [(1, shown x)] := by
    intro text
    rw [← leftmost_map]
    exact Pattern.search_groups h none text.toList
  -- The group is read off the groups, of which there is the one.
  have hgroup : ∀ found : Option Pattern.Place, found.bind (·.group? 1)
      = (found.map Pattern.Place.groups).bind fun groups =>
          (groups.lookup 1).map String.ofList := by
    intro found
    cases found <;> rfl
  have hor : (r.firstMatch? p).map Pattern.Place.groups
      = ((leftmost f r.stdout.toList).or (leftmost f r.stderr.toList)).map
          fun x => [(1, shown x)] := by
    rw [Captured.firstMatch?, Option.map_or, hmatch, hmatch, Option.map_or]
  rw [Captured.firstGroup?, hgroup, hor]
  cases (leftmost f r.stdout.toList).or (leftmost f r.stderr.toList) <;> rfl

end Provision
