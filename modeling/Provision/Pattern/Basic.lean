/-
  Provision.Pattern.Basic
  ───────────────────────
  **PATTERNS AND THEIR LEFTMOST MATCH.**

  A pattern describes texts, and its groups remember what they matched.  A
  pattern is tried at a place by listing all ways to match there, the
  preferred way first: the left side of an alternative before the right one,
  and one more repetition before fewer (or the other way round, where the
  repetition is lazy).  The match of a text is the preferred match at the
  leftmost place that has one.

  Main results:

    `iterate_progress`     a repetition goes on only where it has consumed something
-/
import Provision.Text.Blank
import Provision.Text.WordChar
import Provision.Text.CaseFold

namespace Provision

open Provision.Text

/-! ## §1. Sets of characters. -/

/-- A set of characters. -/
inductive CharSet where
  | range (lo hi : Char)
  /-- The decimal digits. -/
  | digit
  /-- The blank characters. -/
  | blank
  /-- The word characters. -/
  | word
  | none
  | union (a b : CharSet)
  | inter (a b : CharSet)
  | compl (a : CharSet)
  /-- The characters that differ from one of the set in case only. -/
  | anyCase (a : CharSet)
  deriving DecidableEq, Repr, Inhabited

namespace CharSet

/-- Is the character in the set? -/
def holds : CharSet → Char → Bool
  | .range lo hi, c => lo ≤ c && c ≤ hi
  | .digit, c => isDigit c
  | .blank, c => isBlank c
  | .word, c => isWordChar c
  | .none, _ => false
  | .union a b, c => a.holds c || b.holds c
  | .inter a b, c => a.holds c && b.holds c
  | .compl a, c => !a.holds c
  | .anyCase a, c => (caseVariants c).any a.holds

/-- The set of one character. -/
def single (c : Char) : CharSet := .range c c

/-- Every character. -/
def all : CharSet := .compl .none

/-- Every character but the line feed. -/
def notNewline : CharSet := .compl (single '\n')

end CharSet

/-! ## §2. Patterns. -/

/-- Conditions on the place between two characters. -/
inductive Boundary where
  | textStart
  | textEnd
  | lineStart
  | lineEnd
  | wordEdge
  | notWordEdge
  | wordStart
  | wordEnd
  deriving DecidableEq, Repr, Inhabited

/-- A pattern. -/
inductive Pattern where
  | empty
  /-- One character of a set. -/
  | one (set : CharSet)
  /-- A condition on the place. -/
  | boundary (b : Boundary)
  | seq (p q : Pattern)
  /-- Either pattern, the first one being preferred. -/
  | alt (p q : Pattern)
  /-- Any number of repetitions, many being preferred if `greedy`. -/
  | star (greedy : Bool) (p : Pattern)
  /-- A group that remembers what it matched. -/
  | group (index : Nat) (p : Pattern)
  deriving DecidableEq, Repr, Inhabited

namespace Pattern

/-- The pattern for a text as it stands. -/
def literal : List Char → Pattern
  | [] => .empty
  | c :: cs => .seq (.one (.single c)) (literal cs)

/-- At least one repetition. -/
def plus (greedy : Bool) (p : Pattern) : Pattern := .seq p (.star greedy p)

/-- At most one repetition. -/
def optional (greedy : Bool) (p : Pattern) : Pattern :=
  if greedy then .alt p .empty else .alt .empty p

/-- `n` repetitions. -/
def times (p : Pattern) : Nat → Pattern
  | 0 => .empty
  | n + 1 => .seq p (times p n)

/-- At most `n` repetitions. -/
def upTo (greedy : Bool) (p : Pattern) : Nat → Pattern
  | 0 => .empty
  | n + 1 => optional greedy (.seq p (upTo greedy p n))

/-! ## §3. Matching at a place. -/

/-- A place in a text: what is before it, the rest, and what the groups have
matched so far, the latest match first. -/
structure Place where
  before : Option Char
  rest : List Char
  groups : List (Nat × List Char) := []
  deriving DecidableEq, Repr, Inhabited

/-- Is there a word character? -/
def isWord (c : Option Char) : Bool := c.any isWordChar

/-- Does the condition hold at the place? -/
def Place.satisfies (s : Place) : Boundary → Bool
  | .textStart => s.before.isNone
  | .textEnd => s.rest.isEmpty
  | .lineStart => s.before.isNone || s.before == some '\n'
  | .lineEnd => s.rest.isEmpty || s.rest.head? == some '\n'
  | .wordEdge => isWord s.before != isWord s.rest.head?
  | .notWordEdge => isWord s.before == isWord s.rest.head?
  | .wordStart => !isWord s.before && isWord s.rest.head?
  | .wordEnd => isWord s.before && !isWord s.rest.head?

/-- Repeat `f` from a place on.  A repetition that consumes nothing is the last. -/
def iterate (greedy : Bool) (f : Place → List Place) (s : Place) : List Place :=
  let more := (f s).flatMap fun t =>
    if _h : t.rest.length < s.rest.length then iterate greedy f t else [t]
  if greedy then more ++ [s] else s :: more
termination_by s.rest.length

/-- The places to which a pattern leads from a place, the preferred one first. -/
def ends : Pattern → Place → List Place
  | .empty, s => [s]
  | .one set, s =>
      match s.rest with
      | c :: rest => if set.holds c then [{ s with before := some c, rest := rest }] else []
      | [] => []
  | .boundary b, s => if s.satisfies b then [s] else []
  | .seq p q, s => (p.ends s).flatMap q.ends
  | .alt p q, s => p.ends s ++ q.ends s
  | .star greedy p, s => iterate greedy p.ends s
  | .group i p, s =>
      (p.ends s).map fun t =>
        { t with groups := (i, s.rest.take (s.rest.length - t.rest.length)) :: t.groups }

/-- A repetition ends where a round takes no character. -/
theorem iterate_progress {greedy : Bool} {f : Place → List Place} {s : Place}
    (h : ∀ t ∈ f s, ¬ t.rest.length < s.rest.length) :
    iterate greedy f s = if greedy then f s ++ [s] else s :: f s := by
  have hmap : ((f s).flatMap fun t =>
      if _h : t.rest.length < s.rest.length then iterate greedy f t else [t]) = f s := by
    generalize f s = ts at h
    induction ts with
    | nil => rfl
    | cons t ts ih =>
      rw [List.flatMap_cons, dif_neg (h t (by simp)), ih fun u hu => h u (by simp [hu])]
      rfl
  rw [iterate, hmap]

/-! ## §4. Matching a text. -/

/-- The preferred match at the leftmost place that has one. -/
def search (p : Pattern) (before : Option Char) : List Char → Option Place
  | [] => (p.ends ⟨before, [], []⟩).head?
  | c :: cs =>
      match (p.ends ⟨before, c :: cs, []⟩).head? with
      | some t => some t
      | none => search p (some c) cs

/-- The match of a text. -/
def firstMatch? (p : Pattern) (text : String) : Option Place := p.search none text.toList

/-- What a group of a match has matched, if it took part. -/
def Place.group? (t : Place) (index : Nat) : Option String :=
  (t.groups.lookup index).map String.ofList

end Pattern

end Provision
