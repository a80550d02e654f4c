/-
  Provision.Text.Search
  ─────────────────────
  **FINDING AND REPLACING A WORD IN A TEXT.**

  All searches go from left to right.  `afterFirst?` gives what follows the
  leftmost occurrence of a word, `occurs` says whether there is one,
  `replaceAll` puts another text in the place of every occurrence (an
  occurrence never overlaps the one before it), and `splitAll` cuts a text at
  every separator.

  Main results:

    `occurs_iff_afterFirst?`   the two searches agree
    `intercalate_splitAll`     cutting at a separator loses nothing
-/
namespace Provision.Text

/-! ## §1. Occurrences. -/

/-- Does `word` occur somewhere in the text? -/
def occurs (word : List Char) : List Char → Bool
  | [] => word.isEmpty
  | c :: cs => word.isPrefixOf (c :: cs) || occurs word cs

/-- What follows the leftmost occurrence of `word`. -/
def afterFirst? (word : List Char) : List Char → Option (List Char)
  | [] => if word.isEmpty then some [] else none
  | c :: cs =>
      if word.isPrefixOf (c :: cs) then some ((c :: cs).drop word.length)
      else afterFirst? word cs

/-- Does `word` occur in the text? -/
def holds (text word : String) : Bool := occurs word.toList text.toList

/-- A word occurs in a text iff there is a first place to go on behind. -/
theorem occurs_iff_afterFirst? (word cs : List Char) :
    occurs word cs = (afterFirst? word cs).isSome := by
  induction cs with
  | nil => cases word <;> rfl
  | cons c cs ih =>
    by_cases h : word.isPrefixOf (c :: cs) <;> simp [occurs, afterFirst?, h, ih]

/-! ## §2. Replacement. -/

/-- Replace every occurrence of `word`, which is not empty, by `by_`; the
counter runs through the rest of an occurrence that is already replaced. -/
def replaceFrom (word by_ : List Char) : Nat → List Char → List Char
  | _, [] => []
  | n + 1, _ :: cs => replaceFrom word by_ n cs
  | 0, c :: cs =>
      if word.isPrefixOf (c :: cs) then by_ ++ replaceFrom word by_ (word.length - 1) cs
      else c :: replaceFrom word by_ 0 cs

/-- The text with `by_` in the place of every occurrence of `word`. -/
def replaceAll (text word by_ : String) : String :=
  String.ofList (replaceFrom word.toList by_.toList 0 text.toList)

/-- Where the word does not occur nothing is replaced. -/
theorem replaceFrom_of_not_occurs {word by_ : List Char} :
    ∀ {cs : List Char}, occurs word cs = false → replaceFrom word by_ 0 cs = cs
  | [], _ => rfl
  | c :: cs, h => by
    simp only [occurs, Bool.or_eq_false_iff] at h
    simp [replaceFrom, h.1, replaceFrom_of_not_occurs h.2]

/-! ## §3. Cutting. -/

/-- Cut the text at every separator; the pieces are never none. -/
def splitAll (sep : Char) : List Char → List (List Char)
  | [] => [[]]
  | c :: cs =>
      if c = sep then [] :: splitAll sep cs
      else match splitAll sep cs with
        | [] => [[c]]
        | p :: ps => (c :: p) :: ps

/-- The pieces of a text between separators. -/
def pieces (sep : Char) (text : String) : List String :=
  (splitAll sep text.toList).map String.ofList

/-- Cutting leaves at least one piece. -/
theorem splitAll_ne_nil (sep : Char) (cs : List Char) : splitAll sep cs ≠ [] := by
  cases cs with
  | nil => simp [splitAll]
  | cons c cs =>
    simp only [splitAll]
    split
    · simp
    · split <;> simp

/-- **The pieces with the separator between them are the text.** -/
theorem intercalate_splitAll (sep : Char) (cs : List Char) :
    [sep].intercalate (splitAll sep cs) = cs := by
  induction cs with
  | nil => rfl
  | cons c cs ih =>
    have hne := splitAll_ne_nil sep cs
    simp only [splitAll]
    match hs : splitAll sep cs with
    | [] => exact absurd hs hne
    | p :: ps =>
      rw [hs] at ih
      by_cases h : c = sep
      · subst h
        simp [List.intercalate] at ih ⊢
        exact ih
      · cases ps <;> simp_all [List.intercalate, List.intersperse]

end Provision.Text
