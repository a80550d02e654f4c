/-
  Provision.Proofs.LineTokens
  ───────────────────────────
  **THE TOKENS OF ONE LINE.**

  A line begins with a key or with the hyphen of an item; the blocks that it
  closes and opens are told before that.  A value is read after its blank up
  to the end of its line.  After a hyphen it may be a key, so that it waits.

  Main results:

    `Ready.emits_key`      a key is read with its colon
    `Ready.emits_hyphen`   so is the hyphen of an item
    `fetch_scalar`         a value leaves its line
    `Ready.emits_content`  a line gives the tokens of its layout
-/
import Provision.Proofs.EmittedTokens
import Provision.Proofs.Layout

namespace Provision.Yaml

namespace Lexer

/-! ## §1. Which token begins. -/

/-- **A line closes the blocks that begin to its right**, and tells each of
them. -/
theorem closeBlocks_left (l : Line) (m : Mark) (blocks : List Nat) :
    ∃ ends : List (Located Token), closeBlocks (l.column + 1) m blocks = (l.left blocks, ends)
      ∧ (∀ t ∈ ends, t.value = .blockEnd) ∧ ends.length + (l.left blocks).length = blocks.length := by
  induction blocks with
  | nil => exact ⟨[], rfl, nofun, rfl⟩
  | cons b bs ih =>
      obtain ⟨ends, hclose, hvalues, hlength⟩ := ih
      rw [l.left_cons]
      unfold closeBlocks
      by_cases hb : l.column < b
      · rw [if_pos (Nat.succ_le_of_lt hb), if_pos hb, hclose]
        refine ⟨⟨.blockEnd, m, m⟩ :: ends, rfl, ?_, ?_⟩
        · intro t ht
          rcases List.mem_cons.mp ht with rfl | ht
          · rfl
          · exact hvalues t ht
        · rw [List.length_cons, List.length_cons, ← hlength]
          omega
      · rw [if_neg (fun h => hb (Nat.lt_of_succ_le h)), if_neg hb]
        exact ⟨[], rfl, nofun, Nat.zero_add _⟩

/-- No block is closed inside the innermost one. -/
theorem unroll_inside {s : Lexer} {least : Nat} (h : ∀ b ∈ s.blocks.head?, b < least) :
    s.unroll least = s := by
  unfold unroll
  obtain ⟨c, st, blocks, ka, keys, queue, delivered⟩ := s
  have hclose : closeBlocks least c.mark blocks = (blocks, []) := by
    cases blocks with
    | nil => rfl
    | cons b bs =>
        unfold closeBlocks
        rw [if_neg (Nat.not_le.mpr (h b rfl))]
  show (if _ then _ else _) = _
  split
  · rfl
  · show (⟨c, st, (closeBlocks least c.mark blocks).1, ka, keys,
      queue ++ (closeBlocks least c.mark blocks).2, delivered⟩ : Lexer) = _
    rw [hclose, List.append_nil]

/-- But for the hyphen no character of a plain scalar has a meaning of its own. -/
theorem not_isIndicator {c : Char} (hc : isPlainChar c = true) (hhyphen : c ≠ '-') :
    isIndicator c = false := by
  have hlist : ("-?:,[]#&*!|>'\"%@".toList.all fun x => !isPlainChar x || x == '-') = true := by
    decide
  have hsign : "-?:,[]#&*!|>'\"%@".toList.contains c = false := by
    rw [List.contains_eq_mem, decide_eq_false_iff_not]
    intro hmem
    have honly := List.all_eq_true.mp hlist c hmem
    rw [hc] at honly
    exact hhyphen (eq_of_beq honly)
  have hcode : (c.toNat == 96) = false := by
    rw [beq_eq_false_iff_ne]
    intro heq
    rw [← Char.ofNat_toNat c, heq] at hc
    exact absurd hc (by decide)
  unfold isIndicator
  rw [hsign, hcode, beq_eq_false_iff_ne.mpr (ne_of_plainChar hc (by decide)),
    beq_eq_false_iff_ne.mpr (ne_of_plainChar hc (by decide))]
  rfl

/-- A word begins a plain scalar. -/
theorem fetchToken_plain {s : Lexer} {w tail : List Char} (hrest : s.cursor.rest = w ++ tail)
    (hw : IsWord w) (hplace : s.mark.column ≠ 0 ∨ ∀ cs, atMarker (w ++ cs) = false) :
    s.fetchToken = s.fetchPlain := by
  obtain ⟨hne, hhyphen, hchars⟩ := hw
  cases w with
  | nil => exact absurd rfl hne
  | cons c cs =>
      have hc := hchars c (List.mem_cons_self ..)
      have hsign : ∀ x, isPlainChar x = false → (c == x) = false :=
        fun x hx => beq_eq_false_iff_ne.mpr (ne_of_plainChar hc hx)
      have hmarker : (s.mark.column == 0 && atMarker (c :: (cs ++ tail))) = false := by
        rcases hplace with hm | hm
        · rw [beq_eq_false_iff_ne.mpr hm, Bool.false_and]
        · rw [show c :: (cs ++ tail) = (c :: cs) ++ tail from rfl, hm, Bool.and_false]
      -- After a hyphen the word goes on, so that it begins no item.
      have hgoes : c = '-' → endsWord (cs ++ tail) = false
          ∧ (cs ++ tail).head?.any isSpace = false := by
        intro heq
        cases cs with
        | nil => exact absurd (by rw [heq]) hhyphen
        | cons d ds =>
            have hd := hchars d (List.mem_cons_of_mem _ (List.mem_cons_self ..))
            exact ⟨not_endsWord_plainChar hd _, isSpace_plainChar hd⟩
      have hitem : (c == '-' && endsWord (cs ++ tail)) = false := by
        by_cases heq : c = '-'
        · rw [(hgoes heq).1, Bool.and_false]
        · rw [beq_eq_false_iff_ne.mpr heq, Bool.false_and]
      have hbegins : beginsPlain s.inFlow c (cs ++ tail) = true := by
        unfold beginsPlain
        by_cases heq : c = '-'
        · rw [(hgoes heq).2, heq]
          rfl
        · rw [not_isIndicator hc heq, isSpace_plainChar hc]
          rfl
      unfold fetchToken
      rw [hrest]
      simp only [List.cons_append, hmarker, hitem, hbegins, Bool.and_false, Bool.false_and,
        Bool.false_eq_true, if_false, if_true, hsign '%' (by decide), hsign '[' (by decide),
        hsign ']' (by decide), hsign '\x7b' (by decide), hsign '\x7d' (by decide),
        hsign ',' (by decide), hsign '?' (by decide), hsign ':' (by decide),
        hsign '*' (by decide), hsign '&' (by decide), hsign '!' (by decide),
        hsign '|' (by decide), hsign '>' (by decide), hsign '\'' (by decide),
        hsign '"' (by decide)]

/-- A double quote begins a quoted scalar. -/
theorem fetchToken_quote {s : Lexer} {tail : List Char} (hrest : s.cursor.rest = '"' :: tail) :
    s.fetchToken = s.fetchQuoted .doubleQuoted := by
  unfold fetchToken
  rw [hrest]
  have hmarker : atMarker ('"' :: tail) = false := not_atMarker (by decide) (by decide) tail
  simp only [hmarker, Bool.and_false, Bool.false_eq_true, if_false]
  cases s.mark.column == 0 <;> cases s.inFlow <;> rfl

/-- A colon before a blank or the end of the line begins a value. -/
theorem fetchToken_colon {s : Lexer} {tail : List Char} (hrest : s.cursor.rest = ':' :: tail)
    (htail : endsWord tail = true) : s.fetchToken = s.fetchValue := by
  unfold fetchToken
  rw [hrest]
  have hmarker : atMarker (':' :: tail) = false := not_atMarker (by decide) (by decide) tail
  simp only [hmarker, htail, Bool.and_false, Bool.or_true, Bool.and_true, Bool.false_eq_true,
    if_false]
  cases s.mark.column == 0 <;> rfl

/-- A hyphen before a blank begins an item. -/
theorem fetchToken_item {s : Lexer} {tail : List Char} (hrest : s.cursor.rest = '-' :: ' ' :: tail) :
    s.fetchToken = s.fetchBlockEntry := by
  unfold fetchToken
  rw [hrest]
  have hmarker : atMarker ('-' :: ' ' :: tail) = false := by
    unfold atMarker
    rfl
  simp only [hmarker, Bool.and_false, Bool.false_eq_true, if_false]
  cases s.mark.column == 0 <;> rfl

/-- A bracket opens a list on one line. -/
theorem fetchToken_bracket {s : Lexer} {tail : List Char} (hrest : s.cursor.rest = '[' :: tail) :
    s.fetchToken = s.fetchOpening .flowSequenceStart := by
  unfold fetchToken
  rw [hrest]
  have hmarker : atMarker ('[' :: tail) = false := not_atMarker (by decide) (by decide) tail
  simp only [hmarker, Bool.and_false, Bool.false_eq_true, if_false]
  cases s.mark.column == 0 <;> rfl

/-- A closing bracket ends a list on one line. -/
theorem fetchToken_unbracket {s : Lexer} {tail : List Char} (hrest : s.cursor.rest = ']' :: tail) :
    s.fetchToken = s.fetchClosing .flowSequenceEnd := by
  unfold fetchToken
  rw [hrest]
  have hmarker : atMarker (']' :: tail) = false := not_atMarker (by decide) (by decide) tail
  simp only [hmarker, Bool.and_false, Bool.false_eq_true, if_false]
  cases s.mark.column == 0 <;> rfl

/-! ## §2. Keys and hyphens. -/

/-- No key begins a marker of a document. -/
theorem marker_key {key : List Char} (hkey : IsKey key) (cs : List Char) :
    atMarker (key ++ cs) = false := by
  obtain ⟨⟨hne, -, -⟩, hhyphen, hdot⟩ := hkey
  cases key with
  | nil => exact absurd rfl hne
  | cons c ds =>
      rw [List.cons_append]
      exact not_atMarker (fun h => hhyphen (by rw [h]; rfl)) (fun h => hdot (by rw [h]; rfl)) _

/-- What a line closes is closed before its first token. -/
theorem unroll_prepared (l : Line) {m : Mark} (hm : m.column = l.column) (rest : List Char)
    (blocks : List Nat) :
    ∃ ends : List (Located Token), (∀ t ∈ ends, t.value = .blockEnd)
      ∧ ends.length + (l.left blocks).length = blocks.length
      ∧ ∀ q d, (prepared m rest blocks q d).unroll (m.column + 1)
          = prepared m rest (l.left blocks) (q ++ ends) d := by
  obtain ⟨ends, hclose, hvalues, hlength⟩ := closeBlocks_left l m blocks
  refine ⟨ends, hvalues, hlength, fun q d => ?_⟩
  rw [hm]
  unfold unroll
  show (if false = true then _ else (⟨⟨m, rest⟩, true, (closeBlocks (l.column + 1) m blocks).1, true,
    [none], q ++ (closeBlocks (l.column + 1) m blocks).2, d⟩ : Lexer)) = _
  rw [if_neg Bool.false_ne_true, hclose]
  rfl

/-- Blocks that are closed are as many tokens for it. -/
theorem values_ends {ends : List (Located Token)} (h : ∀ t ∈ ends, t.value = .blockEnd) :
    ends.map Located.value = List.replicate ends.length .blockEnd := by
  rw [List.eq_replicate_iff]
  refine ⟨List.length_map _, fun t ht => ?_⟩
  obtain ⟨u, hu, rfl⟩ := List.mem_map.mp ht
  exact h u hu

/-- A token outside brackets is read where it stands. -/
theorem fetch_at {s : Lexer} (hstarted : s.started = true) {ka : Bool} {c : Cursor}
    (hskip : skipToToken s.inFlow s.keyAllowed false s.mark s.cursor.rest = (ka, c))
    (hfresh : Fresh { s with cursor := c, keyAllowed := ka })
    (hblocks : ∀ b ∈ s.blocks.head?, b ≤ c.mark.column) :
    s.fetch = fetchToken { s with cursor := c, keyAllowed := ka } := by
  obtain ⟨c₀, started, blocks, ka₀, keys, queue, delivered⟩ := s
  subst hstarted
  have hdrop := dropStaleKeys_fresh hfresh
  have hroll : unroll ⟨c, true, blocks, ka, keys, queue, delivered⟩ (c.mark.column + 1) = _ :=
    unroll_inside fun b hb => Nat.lt_succ_of_le (hblocks b hb)
  unfold fetch
  simp only [Bool.not_true, Bool.false_eq_true, if_false]
  rw [hskip]
  show (dropStaleKeys ⟨c, true, blocks, ka, keys, queue, delivered⟩ >>= _) = _
  rw [hdrop]
  exact congrArg fetchToken hroll

/-- The lexer before the colon of a key. -/
def awaiting (m : Mark) (rest : List Char) (blocks : List Nat) (k : KeyPlace)
    (queue : List (Located Token)) (delivered : Nat) : Lexer :=
  { cursor := ⟨m, rest⟩, started := true, blocks := blocks, keys := [some k], queue := queue,
    delivered := delivered }

/-- **A key of at most 1024 characters still waits for its colon** when it has
been read. -/
theorem awaiting_fresh {m : Mark} {n : Nat} (hn : n ≤ 1024) (rest : List Char) (blocks : List Nat)
    {k : KeyPlace} (hk : k.mark = m) (queue : List (Located Token)) (delivered : Nat) :
    (awaiting (m.advance n) rest blocks k queue delivered).Fresh := by
  intro k' hk'
  rw [Option.some.inj (List.mem_singleton.mp hk')]
  unfold KeyPlace.isStale
  rw [hk, Bool.or_eq_false_iff, decide_eq_false_iff_not, decide_eq_false_iff_not]
  exact ⟨Nat.lt_irrefl _, Nat.not_lt.mpr (Nat.add_le_add_left hn _)⟩

/-- The first word of a line waits for its colon. -/
theorem Ready.emits_word {s : Lexer} {m : Mark} {key tail : List Char}
    (h : s.Ready m (key ++ ':' :: tail)) {l : Line} (hm : m.column = l.column) (hkey : IsKey key)
    (hshort : key.length ≤ 1024) (htail : endsWord tail = true) :
    ∃ k D, k.mark = m ∧ k.tokenNumber = D
      ∧ Emits s (s.queue.map Located.value
          ++ List.replicate (s.blocks.length - (l.left s.blocks).length) .blockEnd)
        (awaiting (m.advance key.length) (':' :: tail) (l.left s.blocks) k
          [⟨(Scalar.plain key).token, m, m.advance key.length⟩] D) := by
  obtain ⟨ends, hends, hlength, hunroll⟩ := unroll_prepared l hm (key ++ ':' :: tail) s.blocks
  have hlen : 0 < key.length := List.length_pos_iff.mpr hkey.word.1
  let D := s.delivered + s.queue.length
  let k : KeyPlace := ⟨(l.left s.blocks).head? == some m.column, D + ends.length, m⟩
  let t : Located Token := ⟨(Scalar.plain key).token, m, m.advance key.length⟩
  let u : Lexer := awaiting (m.advance key.length) (':' :: tail) (l.left s.blocks) k (ends ++ [t]) D
  have hfresh : u.Fresh := awaiting_fresh hshort _ _ rfl _ _
  have hkeys : ∀ k', some k' ∈ u.keys → D + ends.length ≤ k'.tokenNumber := by
    intro k' hk'
    have heq : k' = k := Option.some.inj (List.mem_singleton.mp hk')
    exact Nat.le_of_eq (congrArg KeyPlace.tokenNumber heq).symm
  have hread : Emits s (s.queue.map Located.value) u := by
    refine h.emits_first (fun q d hq => ?_) rfl hfresh
      (fun k' hk' => Nat.le_trans (Nat.le_add_right _ _) (hkeys k' hk')) ?_
    · rw [hunroll, fetchToken_plain rfl hkey.word (.inr (marker_key hkey))]
      unfold fetchPlain
      show (readPlain ⟨false, _, m⟩ [] .none m m (key ++ ':' :: tail) >>= _) = _
      rw [readPlain_colon _ rfl hkey.word.2.2 htail m (.inr (marker_key hkey))]
      show Except.ok (⟨_, true, _, false, [some ⟨_, d + (q ++ ends).length, m⟩], q ++ ends ++ [t],
        d⟩ : Lexer) = _
      rw [List.append_assoc, List.length_append, ← Nat.add_assoc, hq]
      rfl
    · show 1 + (8 * (tail.length + 1) + (l.left s.blocks).length + (ends ++ [t]).length)
        ≤ 8 * (key ++ ':' :: tail).length + s.blocks.length
      simp only [List.length_append, List.length_cons, List.length_nil]
      omega
  have hdeliver : Emits u (ends.map Located.value)
      (awaiting (m.advance key.length) (':' :: tail) (l.left s.blocks) k [t] (D + ends.length)) :=
    emits_deliver rfl hfresh hkeys fun e he => by rw [hends e he]; nofun
  refine ⟨k, D + ends.length, rfl, rfl, ?_⟩
  rw [show s.blocks.length - (l.left s.blocks).length = ends.length by omega, ← values_ends hends]
  exact hread.trans hdeliver

/-- The token for the block that a line opens. -/
def opened (l : Line) (blocks : List Nat) (m : Mark) : List (Located Token) :=
  if l.isFirst blocks then [⟨l.content.start, m, m⟩] else []

/-- The first line of a block tells its beginning, and other lines tell none. -/
theorem values_opened (l : Line) (blocks : List Nat) (m : Mark) :
    (opened l blocks m).map Located.value = if l.isFirst blocks then [l.content.start] else [] := by
  unfold opened
  split <;> rfl

theorem length_opened (l : Line) (blocks : List Nat) (m : Mark) :
    (l.after blocks).length = (l.left blocks).length + (opened l blocks m).length := by
  unfold opened Line.after
  split <;> rfl

/-- A line opens one block at most. -/
theorem length_opened_le (l : Line) (blocks : List Nat) (m : Mark) :
    (opened l blocks m).length ≤ 1 := by
  unfold opened
  split
  · exact Nat.le_refl 1
  · exact Nat.zero_le 1

/-- To open a block does not end the stream. -/
theorem not_end_opened (l : Line) (blocks : List Nat) (m : Mark) :
    ∀ t ∈ opened l blocks m, t.value ≠ .streamEnd := by
  intro t ht
  unfold opened at ht
  split at ht
  · rw [List.mem_singleton.mp ht]
    show l.content.start ≠ _
    cases l.content <;> nofun
  · cases ht

theorem insertAt_first (s : Lexer) (t : Located Token) :
    s.insertAt s.delivered t = { s with queue := t :: s.queue } := by
  unfold insertAt
  simp only [Nat.sub_self, List.take_zero, List.drop_zero, List.nil_append, List.singleton_append]

/-- The colon makes a key of the word before it, and opens the block of the
line before that. -/
theorem fetch_colon {m : Mark} {l : Line} (hm : m.column = l.column)
    (hstart : l.content.start = .blockMappingStart) (blocks : List Nat) {n : Nat} (hn : n ≤ 1024)
    {tail : List Char} (htail : endsWord tail = true) {k : KeyPlace}
    (hk : k.mark = m) (t : Located Token) {d : Nat} (hnumber : k.tokenNumber = d) :
    (awaiting (m.advance n) (':' :: tail) (l.left blocks) k [t] d).fetch
      = .ok { inside (m.advance (n + 1)) tail (l.after blocks) d with
          queue := opened l blocks m
            ++ [⟨.key, m, m⟩, t, ⟨.value, m.advance n, m.advance (n + 1)⟩] } := by
  have hskip : skipToToken false false false (m.advance n) (':' :: tail)
      = (false, ⟨m.advance n, ':' :: tail⟩) :=
    skipToToken_ink (fun c hc => by rw [← Option.some.inj hc]; decide) _ _ _
  have hfetch := fetch_at (s := awaiting (m.advance n) (':' :: tail) (l.left blocks) k [t] d) rfl
    hskip (awaiting_fresh hn _ _ hk _ _)
    fun b hb => Nat.le_trans (l.head_left_le blocks b hb) (hm ▸ Nat.le_add_right _ _)
  rw [hfetch, fetchToken_colon rfl htail]
  obtain ⟨required, number, mark⟩ := k
  subst hk hnumber
  let u : Lexer := awaiting (mark.advance n) (':' :: tail) (l.left blocks) ⟨required, number, mark⟩
    [t] number
  have hkey : u.insertAt number ⟨.key, mark, mark⟩
      = { u with queue := [⟨.key, mark, mark⟩, t] } := insertAt_first u _
  have hopen : openMappingAt { u with queue := [⟨.key, mark, mark⟩, t] } ⟨required, number, mark⟩
      = { u with
          blocks := l.after blocks
          queue := opened l blocks mark ++ [⟨.key, mark, mark⟩, t] } := by
    have hdeeper : (!u.inFlow && u.isDeeper mark.column) = l.isFirst blocks := by
      rw [hm]
      rfl
    unfold openMappingAt
    show (if (!u.inFlow && u.isDeeper mark.column) then _ else _) = _
    rw [hdeeper]
    unfold Line.after opened
    rw [hstart]
    cases l.isFirst blocks
    · rfl
    · show ({ insertAt { u with queue := [⟨.key, mark, mark⟩, t] } u.delivered _ with
        blocks := _ } : Lexer) = _
      rw [insertAt_first]
      rw [hm]
      rfl
  have hvalue : fetchValue u = .ok { (openMappingAt (u.insertAt number ⟨.key, mark, mark⟩)
      ⟨required, number, mark⟩).pushHere .value 1 with keys := [none], keyAllowed := false } := rfl
  refine hvalue.trans ?_
  rw [hkey, hopen]
  show Except.ok (⟨⟨(mark.advance n).advance 1, tail⟩, true, l.after blocks, false, [none],
    (_ ++ [_, _]) ++ [⟨.value, mark.advance n, (mark.advance n).advance 1⟩], number⟩ : Lexer) = _
  rw [List.append_assoc, Mark.advance_advance]
  rfl

theorem fresh_noKey {s : Lexer} (h : s.keys = [none]) : s.Fresh := by
  intro k hk
  rw [h] at hk
  exact absurd (List.mem_singleton.mp hk) nofun

/-- Where no token may begin a key, all that wait are delivered. -/
theorem emits_all {s : Lexer} (hkeys : s.keys = [none])
    (hend : ∀ t ∈ s.queue, t.value ≠ .streamEnd) :
    Emits s (s.queue.map Located.value)
      { s with queue := [], delivered := s.delivered + s.queue.length } := by
  refine emits_deliver (List.append_nil _).symm (fresh_noKey hkeys) (fun k hk => ?_) hend
  rw [hkeys] at hk
  exact absurd (List.mem_singleton.mp hk) nofun

/-- **A key is read with its colon**, after the blocks that its line closes and
opens. -/
theorem Ready.emits_key {s : Lexer} {m : Mark} {key tail : List Char}
    (h : s.Ready m (key ++ ':' :: tail)) {l : Line} (hm : m.column = l.column)
    (hstart : l.content.start = .blockMappingStart) (hkey : IsKey key)
    (hshort : key.length ≤ 1024) (htail : endsWord tail = true) :
    ∃ D, Emits s (s.queue.map Located.value ++ (l.bounds s.blocks ++ Content.keyTokens key))
      (inside (m.advance (key.length + 1)) tail (l.after s.blocks) D) := by
  obtain ⟨k, D, hk, hnumber, hword⟩ := h.emits_word hm hkey hshort htail
  let t : Located Token := ⟨(Scalar.plain key).token, m, m.advance key.length⟩
  let q : List (Located Token) := opened l s.blocks m
    ++ [⟨.key, m, m⟩, t, ⟨.value, m.advance key.length, m.advance (key.length + 1)⟩]
  let u : Lexer :=
    { inside (m.advance (key.length + 1)) tail (l.after s.blocks) D with queue := q }
  have hcolon : Emits (awaiting (m.advance key.length) (':' :: tail) (l.left s.blocks) k [t] D) []
      u := by
    refine emits_fetch (.inr ⟨awaiting_fresh hshort _ _ hk _ _, ?_⟩)
      (fetch_colon hm hstart s.blocks hshort htail hk t hnumber) ?_
    · show ((k.tokenNumber == D) || false) = true
      rw [hnumber, beq_self_eq_true, Bool.true_or]
    · have hq : q.length = (opened l s.blocks m).length + 3 := List.length_append
      have hafter := length_opened l s.blocks m
      have hle := length_opened_le l s.blocks m
      show 1 + (8 * tail.length + (l.after s.blocks).length + q.length)
        ≤ 8 * (tail.length + 1) + (l.left s.blocks).length + 1
      omega
  have hdeliver : Emits u (q.map Located.value)
      (inside (m.advance (key.length + 1)) tail (l.after s.blocks) (D + q.length)) := by
    refine emits_all rfl fun v hv => ?_
    rcases List.mem_append.mp hv with hv | hv
    · exact not_end_opened l s.blocks m v hv
    · simp only [List.mem_cons, List.not_mem_nil, or_false] at hv
      rcases hv with rfl | rfl | rfl <;> nofun
  refine ⟨D + q.length, ?_⟩
  rw [show s.queue.map Located.value ++ (l.bounds s.blocks ++ Content.keyTokens key)
      = (s.queue.map Located.value
          ++ List.replicate (s.blocks.length - (l.left s.blocks).length) .blockEnd)
        ++ ([] ++ q.map Located.value) by
    rw [List.map_append, values_opened]
    unfold Line.bounds
    simp only [List.append_assoc, List.nil_append]
    rfl]
  exact hword.trans (hcolon.trans hdeliver)

/-- The block of a line is opened if the line is its first one. -/
theorem openBlock_left {m : Mark} {l : Line} (hm : m.column = l.column) (rest : List Char)
    (blocks : List Nat) (queue : List (Located Token)) (delivered : Nat) :
    openBlock (prepared m rest (l.left blocks) queue delivered) l.content.start
      = prepared m rest (l.after blocks) (queue ++ opened l blocks m) delivered := by
  have hdeeper : isDeeper (prepared m rest (l.left blocks) queue delivered) m.column
      = l.isFirst blocks := by
    rw [hm]
    rfl
  unfold openBlock
  show (if isDeeper _ m.column then _ else _) = _
  rw [hdeeper]
  unfold Line.after opened
  cases l.isFirst blocks
  · show prepared m _ _ _ delivered = _
    rw [if_neg Bool.false_ne_true, if_neg Bool.false_ne_true, List.append_nil]
  · rw [← hm]
    rfl

/-- **The hyphen of an item is read**, after the blocks that its line closes
and opens. -/
theorem Ready.emits_hyphen {s : Lexer} {m : Mark} {tail : List Char}
    (h : s.Ready m ('-' :: ' ' :: tail)) {l : Line} (hm : m.column = l.column)
    (hstart : l.content.start = .blockSequenceStart) :
    ∃ D, Emits s (s.queue.map Located.value ++ (l.bounds s.blocks ++ [.blockEntry]))
      (prepared (m.advance 1) (' ' :: tail) (l.after s.blocks) [] D) := by
  obtain ⟨ends, hends, hlength, hunroll⟩ := unroll_prepared l hm ('-' :: ' ' :: tail) s.blocks
  let D := s.delivered + s.queue.length
  let q : List (Located Token) :=
    ends ++ (opened l s.blocks m ++ [⟨.blockEntry, m, m.advance 1⟩])
  let u : Lexer := prepared (m.advance 1) (' ' :: tail) (l.after s.blocks) q D
  have hq : q.length = ends.length + ((opened l s.blocks m).length + 1) := by
    show List.length (_ ++ (_ ++ _)) = _
    rw [List.length_append, List.length_append]
    rfl
  have hread : Emits s (s.queue.map Located.value) u := by
    refine h.emits_first (fun p d hp => ?_) rfl (fresh_noKey rfl)
      (fun k' hk' => absurd (List.mem_singleton.mp hk') nofun) ?_
    · rw [hunroll, fetchToken_item rfl]
      unfold fetchBlockEntry
      rw [← hstart, openBlock_left hm]
      show Except.ok (⟨⟨m.advance 1, ' ' :: tail⟩, true, l.after s.blocks, true, [none],
        p ++ ends ++ opened l s.blocks m ++ [⟨.blockEntry, m, m.advance 1⟩], d⟩ : Lexer) = _
      simp only [List.append_assoc]
      rfl
    · have hafter := length_opened l s.blocks m
      have hle := length_opened_le l s.blocks m
      show 1 + (8 * (tail.length + 1) + (l.after s.blocks).length + q.length)
        ≤ 8 * (tail.length + 1 + 1) + s.blocks.length
      omega
  have hdeliver : Emits u (q.map Located.value)
      (prepared (m.advance 1) (' ' :: tail) (l.after s.blocks) [] (D + q.length)) := by
    refine emits_all rfl fun v hv => ?_
    rcases List.mem_append.mp hv with hv | hv
    · rw [hends v hv]
      nofun
    rcases List.mem_append.mp hv with hv | hv
    · exact not_end_opened l s.blocks m v hv
    · rw [List.mem_singleton.mp hv]
      nofun
  refine ⟨D + q.length, ?_⟩
  rw [show l.bounds s.blocks ++ [.blockEntry] = q.map Located.value by
    rw [List.map_append, List.map_append, values_opened, values_ends hends]
    unfold Line.bounds
    rw [show s.blocks.length - (l.left s.blocks).length = ends.length by omega, List.append_assoc]
    rfl]
  exact hread.trans hdeliver

/-! ## §3. Values. -/

/-- The lexer before the value of a line. -/
def beforeValue (m : Mark) (rest : List Char) (blocks : List Nat) (keyAllowed : Bool)
    (delivered : Nat) : Lexer :=
  { cursor := ⟨m, rest⟩, started := true, blocks := blocks, keyAllowed := keyAllowed,
    keys := [none], delivered := delivered }

/-- The blank behind a colon or a hyphen is gone past. -/
theorem fetch_blank {m : Mark} {rest : List Char} (hrest : StartsInk rest) {blocks : List Nat}
    (hblocks : ∀ b ∈ blocks.head?, b ≤ m.column) (ka : Bool) (d : Nat) :
    (beforeValue m (' ' :: rest) blocks ka d).fetch
      = (beforeValue (m.advance 1) rest blocks ka d).fetchToken := by
  have hskip : skipToToken false ka false m (' ' :: rest) = (ka, ⟨m.advance 1, rest⟩) := by
    rw [show ' ' :: rest = List.replicate 1 ' ' ++ rest from rfl, skipToToken_blanks,
      skipToToken_ink hrest]
  exact fetch_at (s := beforeValue m (' ' :: rest) blocks ka d) rfl hskip (fresh_noKey rfl)
    fun b hb => Nat.le_trans (hblocks b hb) (Nat.le_succ _)

/-- Where a key may have begun, if one may begin there. -/
def saved (keyAllowed : Bool) (m : Mark) (number : Nat) : Option KeyPlace :=
  if keyAllowed then some ⟨false, number, m⟩ else none

/-- **A value may turn out to be a key**, so its place is kept. -/
theorem saveKey_value {m : Mark} (rest : List Char) {blocks : List Nat}
    (hblocks : ∀ b ∈ blocks.head?, b < m.column) (ka : Bool) (d : Nat) :
    (beforeValue m rest blocks ka d).saveKey
      = .ok { beforeValue m rest blocks ka d with keys := [saved ka m d] } := by
  cases ka with
  | false => rfl
  | true =>
      have hrequired : (blocks.head? == some m.column) = false := by
        rw [beq_eq_false_iff_ne]
        intro heq
        exact Nat.lt_irrefl _ (hblocks m.column heq)
      show Except.ok (⟨⟨m, rest⟩, true, blocks, true, [some ⟨(blocks.head? == some m.column), d, m⟩],
        [], d⟩ : Lexer) = _
      rw [hrequired]
      rfl

/-- A word begins with a character of its own. -/
theorem startsInk_word {w : List Char} (hw : IsWord w) (tail : List Char) :
    StartsInk (w ++ tail) := by
  obtain ⟨c, cs, rfl⟩ := List.exists_cons_of_ne_nil hw.1
  intro x hx
  rw [← Option.some.inj hx]
  exact isInk_plainChar (hw.2.2 c (List.mem_cons_self ..))

/-- **A plain scalar is fetched as it is read**, whatever ends it. -/
theorem fetch_plainText {w tail : List Char} (hw : IsWord w) {m : Mark} {b : Nat}
    (hb : b ≤ m.column) (bs : List Nat) {p : PlainScalar}
    (hread : readPlain ⟨false, b + 1, m.advance 1⟩ [] .none (m.advance 1) (m.advance 1) (w ++ tail)
      = .ok p) (ka : Bool) (d : Nat) :
    (beforeValue m (' ' :: (w ++ tail)) (b :: bs) ka d).fetch
      = .ok ⟨p.cursor, true, b :: bs, p.broken, [saved ka (m.advance 1) d],
          [⟨.scalar p.value .plain, m.advance 1, p.stop⟩], d⟩ := by
  have hle : ∀ b' ∈ (b :: bs).head?, b' ≤ m.column := fun b' hb' => Option.some.inj hb' ▸ hb
  have hlt : ∀ b' ∈ (b :: bs).head?, b' < (m.advance 1).column :=
    fun b' hb' => Nat.lt_succ_of_le (hle b' hb')
  rw [fetch_blank (startsInk_word hw tail) hle,
    fetchToken_plain (s := beforeValue (m.advance 1) _ (b :: bs) ka d) rfl hw
      (.inl (Nat.succ_ne_zero _))]
  unfold fetchPlain
  rw [saveKey_value _ hlt]
  show (readPlain ⟨false, b + 1, m.advance 1⟩ [] .none (m.advance 1) (m.advance 1) (w ++ tail)
    >>= _) = _
  rw [hread]
  rfl

/-- **A quoted scalar is fetched up to its quote**, whatever stands behind it. -/
theorem fetch_quotedText {cs : List Char} (hcs : ∀ c ∈ cs, isPrintableAscii c = true) {m : Mark}
    {b : Nat} (hb : b ≤ m.column) (bs : List Nat) (tail : List Char) (ka : Bool) (d : Nat) :
    ∃ stop, (beforeValue m (' ' :: ((Scalar.quoted cs).written ++ tail)) (b :: bs) ka d).fetch
        = .ok ⟨⟨stop, tail⟩, true, b :: bs, false, [saved ka (m.advance 1) d],
            [⟨.scalar (String.ofList cs) .doubleQuoted, m.advance 1, stop⟩], d⟩
      ∧ stop.line = m.line := by
  have hle : ∀ b' ∈ (b :: bs).head?, b' ≤ m.column := fun b' hb' => Option.some.inj hb' ▸ hb
  have hlt : ∀ b' ∈ (b :: bs).head?, b' < (m.advance 1).column :=
    fun b' hb' => Nat.lt_succ_of_le (hle b' hb')
  have hwritten : (Scalar.quoted cs).written ++ tail
      = '"' :: (cs.flatMap escaped ++ '"' :: tail) := by
    show ('"' :: (cs.flatMap escaped ++ ['"'])) ++ tail = _
    rw [List.cons_append, List.append_assoc]
    rfl
  have hink : StartsInk ('"' :: (cs.flatMap escaped ++ '"' :: tail)) := by
    intro x hx
    rw [← Option.some.inj hx]
    decide
  rw [hwritten, fetch_blank hink hle, fetchToken_quote rfl]
  unfold fetchQuoted
  rw [saveKey_value _ hlt]
  show ∃ stop, (readQuoted false (m.advance 1) .text {} ((m.advance 1).advance 1)
    (cs.flatMap escaped ++ '"' :: tail) >>= _) = _ ∧ _
  rw [readQuoted_escaped _ hcs {} trivial (Nat.succ_ne_zero _)]
  exact ⟨_, rfl, rfl⟩

/-- What was read of a line with its value, which may wait. -/
structure ValueRead (s : Lexer) (v : Scalar) (m : Mark) (blocks : List Nat) (keyAllowed : Bool)
    (d : Nat) (n : Nat) (next : List Char) : Prop where
  started : s.started = true
  blocks : s.blocks = blocks
  keys : s.keys = [saved keyAllowed m d]
  queue : s.queue.map Located.value = [v.token]
  delivered : s.delivered = d
  reaches : ∃ m', skipToToken false s.keyAllowed false s.mark s.cursor.rest = (true, ⟨m', next⟩)
    ∧ m'.column = n ∧ m.line < m'.line
  shorter : next.length ≤ s.cursor.rest.length
  longer : s.cursor.rest.length ≤ n + 1 + next.length

/-- A plain scalar is read up to the next line, and the indentation of that
line with it. -/
theorem fetch_plain {w : List Char} (hw : IsWord w) {m : Mark} {b : Nat} (hb : b ≤ m.column)
    (bs : List Nat) {n : Nat} {next : List Char} (hn : n ≤ b) (hnext : StartsInk next) (ka : Bool)
    (d : Nat) :
    ∃ s', (beforeValue m (' ' :: (w ++ '\n' :: (List.replicate n ' ' ++ next))) (b :: bs) ka
        d).fetch = .ok s' ∧ ValueRead s' (.plain w) (m.advance 1) (b :: bs) ka d n next := by
  have hread := readPlain_line ⟨false, b + 1, m.advance 1⟩ rfl hw.2.2 (Nat.lt_succ_of_le hn) hnext
    (m.advance 1) (.inl (Nat.succ_ne_zero _))
  refine ⟨_, fetch_plainText hw hb bs hread ka d, rfl, rfl, rfl, rfl, rfl,
    ⟨_, skipToToken_ink hnext _ _ _, ?_, ?_⟩, ?_, ?_⟩
  · exact Nat.zero_add n
  · exact Nat.lt_succ_self _
  · exact Nat.le_refl _
  · exact Nat.le_add_left _ _

/-- A quoted scalar is read up to its quote. -/
theorem fetch_quoted {cs : List Char} (hcs : ∀ c ∈ cs, isPrintableAscii c = true) {m : Mark}
    {b : Nat} (hb : b ≤ m.column) (bs : List Nat) (n : Nat) {next : List Char}
    (hnext : StartsInk next) (ka : Bool) (d : Nat) :
    ∃ s', (beforeValue m (' ' :: ((Scalar.quoted cs).written
        ++ '\n' :: (List.replicate n ' ' ++ next))) (b :: bs) ka d).fetch = .ok s'
      ∧ ValueRead s' (.quoted cs) (m.advance 1) (b :: bs) ka d n next := by
  let line : List Char := '\n' :: (List.replicate n ' ' ++ next)
  have hlength : line.length = n + next.length + 1 := by
    rw [List.length_cons, List.length_append, List.length_replicate]
  obtain ⟨stop, hfetch, hstop⟩ := fetch_quotedText hcs hb bs line ka d
  refine ⟨_, hfetch, rfl, rfl, rfl, rfl, rfl, ⟨_, skipToToken_line _ _ _ hnext, ?_, ?_⟩, ?_, ?_⟩
  · exact Nat.zero_add n
  · exact Nat.lt_succ_of_le (Nat.le_of_eq hstop.symm)
  · show next.length ≤ line.length
    omega
  · show line.length ≤ _
    omega

/-- **The scalar of a line is read.** -/
theorem fetch_scalar {v : Scalar} (hv : v.Legible) {m : Mark} {b : Nat} (hb : b ≤ m.column)
    (bs : List Nat) {n : Nat} {next : List Char} (hn : v.isPlain = true → n ≤ b)
    (hnext : StartsInk next) (ka : Bool) (d : Nat) :
    ∃ s', (beforeValue m (' ' :: (v.written ++ '\n' :: (List.replicate n ' ' ++ next))) (b :: bs) ka
        d).fetch = .ok s' ∧ ValueRead s' v (m.advance 1) (b :: bs) ka d n next := by
  cases v with
  | plain w => exact fetch_plain hv hb bs (hn rfl) hnext ka d
  | quoted cs => exact fetch_quoted hv hb bs n hnext ka d

/-- The token of a value waits once it is read, and the text is not at its end with
it. -/
theorem emits_read {s s' : Lexer} {v : Scalar} (hempty : s.queue = []) (hfetch : s.fetch = .ok s')
    (hqueue : s'.queue.map Located.value = [v.token]) (hblocks : s'.blocks = s.blocks)
    (hshorter : s'.cursor.rest.length < s.cursor.rest.length) :
    ∃ t, s'.queue = [t] ∧ t.value ≠ .streamEnd ∧ Emits s [] s' := by
  obtain ⟨t, ht, hvalue⟩ := List.map_eq_singleton_iff.mp hqueue
  refine ⟨t, ht, ?_, emits_fetch (.inl hempty) hfetch ?_⟩
  · rw [hvalue]
    cases v <;> nofun
  · unfold potential
    rw [ht, hblocks, hempty, List.length_singleton, List.length_nil]
    omega

/-- Brackets with nothing in them are read. -/
theorem emits_brackets {m : Mark} {blocks : List Nat} (hblocks : ∀ b ∈ blocks.head?, b ≤ m.column)
    (tail : List Char) (d : Nat) :
    Emits (inside m (' ' :: '[' :: ']' :: tail) blocks d) [.flowSequenceStart, .flowSequenceEnd]
      (inside (m.advance 3) tail blocks (d + 2)) := by
  let opening : Located Token := ⟨.flowSequenceStart, m.advance 1, m.advance 2⟩
  let closing : Located Token := ⟨.flowSequenceEnd, m.advance 2, m.advance 3⟩
  let u (queue : List (Located Token)) (d : Nat) : Lexer :=
    { cursor := ⟨m.advance 2, ']' :: tail⟩, started := true, blocks := blocks, keyAllowed := true,
      keys := [none, none], queue := queue, delivered := d }
  have hfresh : ∀ q d, (u q d).Fresh := by
    intro q d k hk
    rcases List.mem_cons.mp hk with hk | hk
    · cases hk
    · exact absurd (List.mem_singleton.mp hk) nofun
  have hopen : Emits (inside m (' ' :: '[' :: ']' :: tail) blocks d) [] (u [opening] d) := by
    refine emits_fetch (.inl rfl) ?_ ?_
    · refine (fetch_blank (fun c hc => ?_) hblocks false d).trans ?_
      · rw [← Option.some.inj hc]
        decide
      · rw [fetchToken_bracket rfl]
        rfl
    · show 1 + (8 * (tail.length + 1) + blocks.length + 1)
        ≤ 8 * (tail.length + 1 + 1 + 1) + blocks.length + 0
      omega
  have hfirst : Emits (u [opening] d) [.flowSequenceStart] (u [] (d + 1)) :=
    emits_deliver (s := u [opening] d) (List.append_nil [opening]).symm (hfresh _ _)
      (fun k hk => by
        rcases List.mem_cons.mp hk with hk | hk
        · cases hk
        · exact absurd (List.mem_singleton.mp hk) nofun)
      (fun t ht => by rw [List.mem_singleton.mp ht]; nofun)
  have hclose : Emits (u [] (d + 1)) []
      { inside (m.advance 3) tail blocks (d + 1) with queue := [closing] } := by
    refine emits_fetch (.inl rfl) ?_ ?_
    · have hskip : skipToToken true true false (m.advance 2) (']' :: tail)
          = (true, ⟨m.advance 2, ']' :: tail⟩) :=
        skipToToken_ink (fun c hc => by rw [← Option.some.inj hc]; decide) _ _ _
      rw [fetch_at (s := u [] (d + 1)) rfl hskip (hfresh _ _)
        (fun b hb => Nat.le_trans (hblocks b hb) (Nat.le_add_right _ 2)), fetchToken_unbracket rfl]
      rfl
    · show 1 + (8 * tail.length + blocks.length + 1) ≤ 8 * (tail.length + 1) + blocks.length + 0
      omega
  have hlast : Emits { inside (m.advance 3) tail blocks (d + 1) with queue := [closing] }
      [.flowSequenceEnd] (inside (m.advance 3) tail blocks (d + 2)) :=
    emits_all rfl fun t ht => by rw [List.mem_singleton.mp ht]; nofun
  exact hopen.trans (hfirst.trans (hclose.trans hlast))

/-! ## §4. A whole line. -/

/-- **A line gives the tokens of its layout**, whatever stands behind it.  How it
is left for that is a parameter: where nothing is read behind a key, and where a
value is. -/
theorem Ready.emits_content {s : Lexer} {m : Mark} {l : Line} {tail : List Char}
    (Left : Lexer → List Nat → Prop) (h : s.Ready m (l.content.written ++ tail))
    (hm : m.column = l.column) (hl : l.content.Legible) (hshort : l.content.IsShort)
    (htail : endsWord tail = true) (hinside : ∀ m blocks d, Left (inside m tail blocks d) blocks)
    (hvalue : ∀ (v : Scalar) (m : Mark) (bs : List Nat) (ka : Bool) (d : Nat), v.Legible →
      (v.isPlain = true → l.content.goesOn = true) → l.column ≤ m.column →
      ∃ V s', Emits (beforeValue m (' ' :: (v.written ++ tail)) (l.column :: bs) ka d) V s'
        ∧ Left s' (l.column :: bs) ∧ [v.token] = V ++ s'.queue.map Located.value) :
    ∃ V s', Emits s V s' ∧ Left s' (l.after s.blocks)
      ∧ s.queue.map Located.value ++ l.tokens s.blocks = V ++ s'.queue.map Located.value := by
  obtain ⟨bs, hafter⟩ : ∃ bs, l.after s.blocks = l.column :: bs :=
    List.head?_eq_some_iff.mp (l.head_after s.blocks)
  have hcolumn : ∀ k, l.column ≤ (m.advance k).column :=
    fun k => Nat.le_trans (Nat.le_of_eq hm.symm) (Nat.le_add_right _ k)
  unfold Line.tokens
  obtain ⟨column, content⟩ := l
  cases content with
  | opening key =>
      have hready : s.Ready m (key ++ ':' :: tail) := by
        rw [show key ++ ':' :: tail = (key ++ [':']) ++ tail by rw [List.append_assoc]; rfl]
        exact h
      obtain ⟨D, hkey⟩ := hready.emits_key hm rfl hl hshort htail
      exact ⟨_, _, hkey, hinside _ _ _, (List.append_nil _).symm⟩
  | empty key =>
      have hready : s.Ready m (key ++ ':' :: ' ' :: '[' :: ']' :: tail) := by
        rw [show key ++ ':' :: ' ' :: '[' :: ']' :: tail = (key ++ [':', ' ', '[', ']']) ++ tail by
          rw [List.append_assoc]; rfl]
        exact h
      obtain ⟨D, hkey⟩ := hready.emits_key hm rfl hl hshort rfl
      have hblocks : ∀ b ∈ (Line.after ⟨column, .empty key⟩ s.blocks).head?,
          b ≤ (m.advance (key.length + 1)).column := by
        intro b hb
        rw [hafter] at hb
        rw [← Option.some.inj hb]
        exact hcolumn _
      refine ⟨_, _, hkey.trans (emits_brackets hblocks tail D), hinside _ _ _, ?_⟩
      show _ = _ ++ []
      simp only [List.append_assoc, List.append_nil]
      rfl
  | entry key v =>
      have hready : s.Ready m (key ++ ':' :: ' ' :: (v.written ++ tail)) := by
        rw [show key ++ ':' :: ' ' :: (v.written ++ tail)
          = (key ++ ':' :: ' ' :: v.written) ++ tail by rw [List.append_assoc]; rfl]
        exact h
      obtain ⟨D, hkey⟩ := hready.emits_key hm rfl hl.1 hshort rfl
      obtain ⟨V, s', hread, hleft, htokens⟩ :=
        hvalue v _ bs false D hl.2 (fun hplain => hplain) (hcolumn _)
      rw [hafter] at hkey ⊢
      refine ⟨_, s', hkey.trans hread, hleft, ?_⟩
      rw [List.append_assoc _ V, ← htokens]
      simp only [List.append_assoc]
      rfl
  | item v =>
      -- Behind a hyphen a key may begin, and so the value may wait for its colon.
      obtain ⟨D, hhyphen⟩ := Ready.emits_hyphen (l := ⟨column, .item v⟩) h hm rfl
      obtain ⟨V, s', hread, hleft, htokens⟩ :=
        hvalue v _ bs true D hl (fun hplain => hplain) (hcolumn _)
      rw [hafter] at hhyphen ⊢
      refine ⟨_, s', hhyphen.trans hread, hleft, ?_⟩
      rw [List.append_assoc _ V, ← htokens]
      simp only [List.append_assoc]
      rfl

end Lexer

end Provision.Yaml
