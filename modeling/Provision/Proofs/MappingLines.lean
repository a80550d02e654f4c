/-
  Provision.Proofs.MappingLines
  ─────────────────────────────
  **A MAPPING AND ITS LINES.**

  The value of a key is a scalar, a sequence of scalars or a mapping to
  scalars.  A sequence may stand at the column of its key; a mapping is
  indented further.  The layout of all lines is the tokens of one pair after
  the other, whatever the columns are.

  Main results:

    `legible_pairs`     the lines of legible pairs can be read one by one
    `layout_pairs`      their layout is that of a mapping
-/
import Provision.Proofs.LexedLines

namespace Provision.Yaml

/-! ## §1. Pairs. -/

/-- The value of a key. -/
inductive Value where
  | scalar (v : Scalar)
  /-- A sequence whose items stand at a column. -/
  | items (column : Nat) (vs : List Scalar)
  /-- A mapping whose keys stand at a column. -/
  | parts (column : Nat) (ps : List (List Char × Scalar))
  deriving DecidableEq, Repr

/-- A key with its value. -/
structure Pair where
  key : List Char
  value : Value
  deriving DecidableEq, Repr

/-- The lines of items at a column. -/
def itemLines (column : Nat) (vs : List Scalar) : List Line := vs.map fun v => ⟨column, .item v⟩

/-- The lines of keys with scalars at a column. -/
def partLines (column : Nat) (ps : List (List Char × Scalar)) : List Line :=
  ps.map fun p => ⟨column, .entry p.1 p.2⟩

namespace Value

/-- Can a value be written so? -/
def Legible : Value → Prop
  | .scalar v => v.Legible
  | .items _ vs => ∀ v ∈ vs, v.Legible
  | .parts column ps => 0 < column ∧ ps ≠ [] ∧ ∀ p ∈ ps, IsKey p.1 ∧ p.2.Legible

/-- The tokens of a value. -/
def tokens : Value → List Token
  | .scalar v => [v.token]
  | .items _ [] => [.flowSequenceStart, .flowSequenceEnd]
  | .items column (v :: vs) =>
      let items := (v :: vs).flatMap fun v => [.blockEntry, v.token]
      if column = 0 then items else .blockSequenceStart :: (items ++ [.blockEnd])
  | .parts _ ps =>
      .blockMappingStart
        :: (ps.flatMap (fun p => Content.keyTokens p.1 ++ [p.2.token]) ++ [.blockEnd])

end Value

namespace Pair

def Legible (p : Pair) : Prop := IsKey p.key ∧ p.value.Legible

/-- Are its keys no longer than the lexer takes? -/
def IsShort (p : Pair) : Prop :=
  p.key.length ≤ 1024 ∧ match p.value with
    | .parts _ ps => ∀ q ∈ ps, q.1.length ≤ 1024
    | _ => True

instance (p : Pair) : Decidable p.IsShort :=
  match p with
  | ⟨key, .scalar _⟩ => inferInstanceAs (Decidable (key.length ≤ 1024 ∧ True))
  | ⟨key, .items _ _⟩ => inferInstanceAs (Decidable (key.length ≤ 1024 ∧ True))
  | ⟨key, .parts _ ps⟩ =>
      inferInstanceAs (Decidable (key.length ≤ 1024 ∧ ∀ q ∈ ps, q.1.length ≤ 1024))

/-- The first line of a pair, and those of its value. -/
def lines (p : Pair) : List Line :=
  match p.value with
  | .scalar v => [⟨0, .entry p.key v⟩]
  | .items _ [] => [⟨0, .empty p.key⟩]
  | .items column (v :: vs) => ⟨0, .opening p.key⟩ :: itemLines column (v :: vs)
  | .parts column ps => ⟨0, .opening p.key⟩ :: partLines column ps

/-- The tokens of a pair. -/
def tokens (p : Pair) : List Token := Content.keyTokens p.key ++ p.value.tokens

end Pair

/-- The lines of a mapping. -/
def pairLines (ps : List Pair) : List Line := ps.flatMap Pair.lines

/-- The lines of a pair begin at the margin. -/
theorem firstColumn_lines (p : Pair) (rest : List Line) : firstColumn (p.lines ++ rest) = 0 := by
  unfold Pair.lines
  split <;> rfl

/-- The lines of pairs begin at the margin, and so does the end of the text. -/
theorem firstColumn_pairLines (ps : List Pair) : firstColumn (pairLines ps) = 0 := by
  cases ps with
  | nil => rfl
  | cons p ps => exact firstColumn_lines p (pairLines ps)

/-- The first key of a mapping is written. -/
theorem mem_written_key (p : Pair) (ps : List Pair) :
    ∀ c ∈ p.key, c ∈ written (pairLines (p :: ps)) := by
  obtain ⟨key, value⟩ := p
  intro c hc
  -- In every case the first line begins with the key.
  have hfirst : ∀ (rest : List Char) (content : Content), content.written = key ++ rest →
      ∀ ls, c ∈ written (⟨0, content⟩ :: ls) := by
    intro rest content hcontent ls
    have hmem : c ∈ content.written := hcontent ▸ List.mem_append_left _ hc
    exact List.mem_append_left _ (List.mem_append_right _ (List.mem_append_left _ hmem))
  cases value with
  | scalar v => exact hfirst _ (.entry key v) rfl _
  | items column vs =>
      cases vs with
      | nil => exact hfirst _ (.empty key) rfl _
      | cons v vs => exact hfirst _ (.opening key) rfl _
  | parts column qs => exact hfirst _ (.opening key) rfl _

/-! ## §2. Lines of one column. -/

/-- A line may stand before others, unless its scalar would go on with them. -/
theorem legible_cons {l : Line} {ls : List Line} (hl : l.content.Legible)
    (hnext : l.content.goesOn = true → firstColumn ls ≤ l.column) (hls : Legible ls) :
    Legible (l :: ls) := by
  refine ⟨hl, fun l' hl' hgoes => ?_, hls⟩
  cases ls with
  | nil => cases hl'
  | cons l'' ls =>
      rw [← Option.some.inj hl']
      exact hnext hgoes

/-- Lines of one column may stand before others that are not indented further. -/
theorem legible_column {column : Nat} {ls rest : List Line}
    (h : ∀ l ∈ ls, l.column = column ∧ l.content.Legible) (hnext : firstColumn rest ≤ column)
    (hrest : Legible rest) : Legible (ls ++ rest) := by
  induction ls with
  | nil => exact hrest
  | cons l ls ih =>
      obtain ⟨hcolumn, hl⟩ := h l (List.mem_cons_self ..)
      have hls := fun l' hl' => h l' (List.mem_cons_of_mem _ hl')
      refine legible_cons hl (fun _ => ?_) (ih hls)
      rw [hcolumn]
      cases ls with
      | nil => exact hnext
      | cons l' ls => exact Nat.le_of_eq (hls l' (List.mem_cons_self ..)).1

/-- The tokens of a line, and those of the lines after it in the blocks that it
leaves open. -/
theorem layout_cons (blocks : List Nat) (l : Line) (ls : List Line) :
    layout blocks (l :: ls) = l.tokens blocks ++ layout (l.after blocks) ls := rfl

/-- A line at the column of the innermost block neither closes nor opens one. -/
theorem layout_same (l : Line) (blocks : List Nat) (ls : List Line) :
    layout (l.column :: blocks) (l :: ls)
      = l.content.tokens ++ layout (l.column :: blocks) ls := by
  have hleft : l.left (l.column :: blocks) = l.column :: blocks := by
    rw [l.left_cons, if_neg (Nat.lt_irrefl _)]
  have hfirst : l.isFirst (l.column :: blocks) = false := by
    unfold Line.isFirst
    rw [hleft]
    exact decide_eq_false (Nat.lt_irrefl _)
  rw [layout_cons]
  unfold Line.tokens Line.bounds Line.after
  rw [hfirst, hleft, Nat.sub_self]
  rfl

/-- A line that is indented further opens a block. -/
theorem layout_open {l : Line} {blocks : List Nat} (h : ∀ b ∈ blocks.head?, b < l.column)
    (ls : List Line) :
    layout blocks (l :: ls) = l.content.start :: layout (l.column :: blocks) (l :: ls) := by
  have hleft : l.left blocks = blocks := by
    cases blocks with
    | nil => rfl
    | cons b bs => rw [l.left_cons, if_neg (Nat.not_lt.mpr (Nat.le_of_lt (h b rfl)))]
  have hfirst : l.isFirst blocks = true := by
    unfold Line.isFirst
    rw [hleft]
    cases blocks with
    | nil => rfl
    | cons b bs => exact decide_eq_true (h b rfl)
  rw [layout_same, layout_cons]
  unfold Line.tokens Line.bounds Line.after
  rw [hfirst, hleft, Nat.sub_self]
  rfl

/-- Where the next line is at the column of the block outside, the inner one
is closed. -/
theorem layout_leave {column : Nat} (hcolumn : 0 < column) {rest : List Line}
    (hrest : firstColumn rest = 0) :
    layout [column, 0] rest = .blockEnd :: layout [0] rest := by
  cases rest with
  | nil => rfl
  | cons l ls =>
      have hl : l.column = 0 := hrest
      have hleft : l.left [column, 0] = [0] := by
        rw [l.left_cons, if_pos (hl ▸ hcolumn), l.left_cons, hl, if_neg (Nat.lt_irrefl _)]
      have hleft' : l.left [0] = [0] := by
        rw [l.left_cons, hl, if_neg (Nat.lt_irrefl _)]
      rw [layout_cons, layout_cons]
      unfold Line.tokens Line.bounds Line.after Line.isFirst
      rw [hleft, hleft']
      rfl

/-- **Lines of one column open and close nothing between them.** -/
theorem layout_column {column : Nat} {ls : List Line} (h : ∀ l ∈ ls, l.column = column)
    (blocks : List Nat) (rest : List Line) :
    layout (column :: blocks) (ls ++ rest)
      = ls.flatMap (fun l => l.content.tokens) ++ layout (column :: blocks) rest := by
  induction ls with
  | nil => rfl
  | cons l ls ih =>
      have hl := h l (List.mem_cons_self ..)
      subst hl
      rw [List.cons_append, layout_same, ih fun l' hl' => h l' (List.mem_cons_of_mem _ hl'),
        List.flatMap_cons, List.append_assoc]

/-! ## §3. Lines of pairs. -/

/-- The lines of a pair may stand before those of others. -/
theorem legible_pair {p : Pair} (h : p.Legible) {rest : List Line} (hcolumn : firstColumn rest = 0)
    (hrest : Legible rest) : Legible (p.lines ++ rest) := by
  obtain ⟨key, value⟩ := p
  obtain ⟨hkey, hvalue⟩ := h
  have hnext : ∀ c, firstColumn rest ≤ c := fun c => by
    rw [hcolumn]
    exact Nat.zero_le c
  cases value with
  | scalar v => exact legible_cons ⟨hkey, hvalue⟩ (fun _ => hnext 0) hrest
  | items column vs =>
      cases vs with
      | nil => exact legible_cons hkey (fun _ => hnext 0) hrest
      | cons v vs =>
          refine legible_cons hkey nofun (legible_column (fun l hl => ?_) (hnext column) hrest)
          obtain ⟨u, hu, rfl⟩ := List.mem_map.mp hl
          exact ⟨rfl, hvalue u hu⟩
  | parts column ps =>
      refine legible_cons hkey nofun (legible_column (fun l hl => ?_) (hnext column) hrest)
      obtain ⟨q, hq, rfl⟩ := List.mem_map.mp hl
      exact ⟨rfl, hvalue.2.2 q hq⟩

theorem short_pair {p : Pair} (h : p.IsShort) : ∀ l ∈ p.lines, l.content.IsShort := by
  obtain ⟨key, value⟩ := p
  obtain ⟨hkey, hparts⟩ := h
  intro l hl
  cases value with
  | scalar v =>
      rw [List.mem_singleton.mp hl]
      exact hkey
  | items column vs =>
      cases vs with
      | nil =>
          rw [List.mem_singleton.mp hl]
          exact hkey
      | cons v vs =>
          rcases List.mem_cons.mp hl with rfl | hl
          · exact hkey
          · obtain ⟨u, -, rfl⟩ := List.mem_map.mp hl
            trivial
  | parts column ps =>
      rcases List.mem_cons.mp hl with rfl | hl
      · exact hkey
      · obtain ⟨q, hq, rfl⟩ := List.mem_map.mp hl
        exact hparts q hq

/-- Short keys make short lines. -/
theorem short_pairs {ps : List Pair} (h : ∀ p ∈ ps, p.IsShort) :
    ∀ l ∈ pairLines ps, l.content.IsShort := by
  intro l hl
  obtain ⟨p, hp, hl⟩ := List.mem_flatMap.mp hl
  exact short_pair (h p hp) l hl

/-- **The lines of legible pairs can be read one by one.** -/
theorem legible_pairs {ps : List Pair} (h : ∀ p ∈ ps, p.Legible) : Legible (pairLines ps) := by
  induction ps with
  | nil => trivial
  | cons p ps ih =>
      exact legible_pair (h p (List.mem_cons_self ..)) (firstColumn_pairLines ps)
        (ih fun q hq => h q (List.mem_cons_of_mem _ hq))

/-- The lines inside a block, which the next line closes. -/
theorem layout_inner {column : Nat} (hcolumn : 0 < column) {l : Line} {ls rest : List Line}
    (h : ∀ l' ∈ l :: ls, l'.column = column) (hrest : firstColumn rest = 0) :
    layout [0] (l :: ls ++ rest)
      = l.content.start :: ((l :: ls).flatMap (fun l => l.content.tokens)
          ++ .blockEnd :: layout [0] rest) := by
  have hl := h l (List.mem_cons_self ..)
  have hopen : ∀ b ∈ [0].head?, b < l.column := by
    intro b hb
    rw [← Option.some.inj hb, hl]
    exact hcolumn
  rw [List.cons_append, layout_open hopen, hl, ← List.cons_append, layout_column h,
    layout_leave hcolumn hrest]

/-- **Items are laid out as a sequence**, with a block of its own only where
they are indented. -/
theorem layout_items (column : Nat) (v : Scalar) (vs : List Scalar) {rest : List Line}
    (hrest : firstColumn rest = 0) :
    layout [0] (itemLines column (v :: vs) ++ rest)
      = (Value.items column (v :: vs)).tokens ++ layout [0] rest := by
  have hcolumn : ∀ l ∈ itemLines column (v :: vs), l.column = column := by
    intro l hl
    obtain ⟨u, -, rfl⟩ := List.mem_map.mp hl
    rfl
  have htokens : (itemLines column (v :: vs)).flatMap (fun l => l.content.tokens)
      = (v :: vs).flatMap fun v => [.blockEntry, v.token] := by
    unfold itemLines
    rw [List.flatMap_map]
    rfl
  show _ = (if column = 0 then _ else _) ++ layout [0] rest
  by_cases hzero : column = 0
  · -- At the column of the keys the items are in no block of their own.
    subst hzero
    rw [if_pos rfl, layout_column hcolumn, htokens]
  · have hinner : layout [0] (itemLines column (v :: vs) ++ rest) = _ :=
      layout_inner (Nat.pos_of_ne_zero hzero) hcolumn hrest
    rw [if_neg hzero, hinner]
    show .blockSequenceStart
      :: ((itemLines column (v :: vs)).flatMap (fun l => l.content.tokens) ++ _) = _
    rw [htokens, List.cons_append, List.append_assoc]
    rfl

/-- Parts are laid out as a mapping in a block of its own. -/
theorem layout_parts {column : Nat} (hpositive : 0 < column) (p : List Char × Scalar)
    (ps : List (List Char × Scalar)) {rest : List Line} (hrest : firstColumn rest = 0) :
    layout [0] (partLines column (p :: ps) ++ rest)
      = (Value.parts column (p :: ps)).tokens ++ layout [0] rest := by
  have hcolumn : ∀ l ∈ partLines column (p :: ps), l.column = column := by
    intro l hl
    obtain ⟨u, -, rfl⟩ := List.mem_map.mp hl
    rfl
  have htokens : (partLines column (p :: ps)).flatMap (fun l => l.content.tokens)
      = (p :: ps).flatMap fun p => Content.keyTokens p.1 ++ [p.2.token] := by
    unfold partLines
    rw [List.flatMap_map]
    rfl
  have hinner : layout [0] (partLines column (p :: ps) ++ rest) = _ :=
    layout_inner hpositive hcolumn hrest
  rw [hinner]
  show .blockMappingStart
    :: ((partLines column (p :: ps)).flatMap (fun l => l.content.tokens) ++ _) = _
  rw [htokens]
  unfold Value.tokens
  rw [List.cons_append, List.append_assoc]
  rfl

/-- The layout of a pair whose value is on the lines after its key. -/
theorem layout_opening (key : List Char) (ls : List Line) :
    layout [0] (⟨0, .opening key⟩ :: ls) = Content.keyTokens key ++ layout [0] ls :=
  layout_same ⟨0, .opening key⟩ [] ls

/-- A pair is laid out as its key and its value, in the block of the document. -/
theorem layout_pair {p : Pair} (h : p.Legible) {rest : List Line} (hrest : firstColumn rest = 0) :
    layout [0] (p.lines ++ rest) = p.tokens ++ layout [0] rest := by
  obtain ⟨key, value⟩ := p
  unfold Pair.tokens
  rw [List.append_assoc]
  cases value with
  | scalar v =>
      show layout [0] (⟨0, .entry key v⟩ :: rest) = _
      rw [layout_same ⟨0, .entry key v⟩ []]
      unfold Content.tokens
      rw [List.append_assoc]
      rfl
  | items column vs =>
      cases vs with
      | nil =>
          show layout [0] (⟨0, .empty key⟩ :: rest) = _
          rw [layout_same ⟨0, .empty key⟩ []]
          unfold Content.tokens
          rw [List.append_assoc]
          rfl
      | cons v vs =>
          show layout [0] (⟨0, .opening key⟩ :: (itemLines column (v :: vs) ++ rest)) = _
          rw [layout_opening, layout_items column v vs hrest]
  | parts column ps =>
      obtain ⟨-, hpositive, hne, -⟩ := h
      cases ps with
      | nil => exact absurd rfl hne
      | cons p ps =>
          show layout [0] (⟨0, .opening key⟩ :: (partLines column (p :: ps) ++ rest)) = _
          rw [layout_opening, layout_parts hpositive p ps hrest]

/-- **The layout of a mapping**: the tokens of its pairs, one after the other. -/
theorem layout_pairs {ps : List Pair} (h : ∀ p ∈ ps, p.Legible) (hne : ps ≠ []) :
    layout [] (pairLines ps) = .blockMappingStart :: (ps.flatMap Pair.tokens ++ [.blockEnd]) := by
  have hinside : layout [0] (pairLines ps) = ps.flatMap Pair.tokens ++ [.blockEnd] := by
    clear hne
    induction ps with
    | nil => rfl
    | cons p ps ih =>
        show layout [0] (p.lines ++ pairLines ps) = _
        rw [layout_pair (h p (List.mem_cons_self ..)) (firstColumn_pairLines ps),
          ih fun q hq => h q (List.mem_cons_of_mem _ hq), List.flatMap_cons, List.append_assoc]
  rw [← hinside]
  obtain ⟨l, ls, hlines, hcolumn, hstart⟩ : ∃ l ls, pairLines ps = l :: ls ∧ l.column = 0
      ∧ l.content.start = .blockMappingStart := by
    cases ps with
    | nil => exact absurd rfl hne
    | cons p ps =>
        obtain ⟨key, value⟩ := p
        cases value with
        | scalar v => exact ⟨_, _, rfl, rfl, rfl⟩
        | items column vs =>
            cases vs with
            | nil => exact ⟨_, _, rfl, rfl, rfl⟩
            | cons v vs => exact ⟨_, _, rfl, rfl, rfl⟩
        | parts column qs => exact ⟨_, _, rfl, rfl, rfl⟩
  have hopen : ∀ b ∈ ([] : List Nat).head?, b < l.column := nofun
  rw [hlines, layout_open hopen, hcolumn, hstart]

end Provision.Yaml
