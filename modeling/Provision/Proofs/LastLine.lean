/-
  Provision.Proofs.LastLine
  ─────────────────────────
  **A LAST LINE WITHOUT A LINE BREAK.**

  The last line of a text need not be ended.  Its tokens are those that it
  has with a line break, but the last of them may still wait for a colon when
  the text is over, so that the end of the text has to give it up.

  Main results:

    `Finished.run_end`     the end of the text gives up what waits
    `emits_lastLine`       the last line gives the tokens of its layout
    `tokens_unended`       the tokens of lines of which the last is not ended
    `document_text`        the document of the lines of a mapping, either way
-/
import Provision.Proofs.MappingDocument

namespace Provision.Yaml

namespace Lexer

/-! ## §1. The end of the text. -/

/-- Nothing of the text is left, and what waits is at most one token. -/
structure Finished (s : Lexer) : Prop where
  started : s.started = true
  rest : s.cursor.rest = []
  waits : (s.queue = [] ∧ s.keys = [none])
    ∨ ∃ t k, s.queue = [t] ∧ t.value ≠ .streamEnd ∧ s.keys = [some k] ∧ k.required = false
        ∧ k.tokenNumber = s.delivered

/-- A key that need not begin is kept or given up. -/
theorem dropStaleKeys_single {s : Lexer} {key : Option KeyPlace} (hkeys : s.keys = [key])
    (hrequired : ∀ k ∈ key, k.required = false) :
    ∃ key', (∀ k ∈ key', k.required = false)
      ∧ s.dropStaleKeys = .ok { s with keys := [key'] } := by
  cases key with
  | none => exact ⟨none, nofun, by rw [dropStaleKeys_fresh (fresh_noKey hkeys), ← hkeys]⟩
  | some k =>
      by_cases hstale : KeyPlace.isStale k s.mark = true
      · exact ⟨none, nofun, dropStaleKeys_stale hkeys (hrequired k rfl) hstale⟩
      · exact ⟨some k, hrequired, by
          rw [dropStaleKeys_fresh (fresh_single hkeys hstale), ← hkeys]⟩

/-- The end of the text closes all blocks and gives up the key that may have
begun. -/
theorem fetchEnd_single (c : Cursor) (blocks : List Nat) (ka : Bool) {key : Option KeyPlace}
    (hrequired : ∀ k ∈ key, k.required = false) (q : List (Located Token)) (d : Nat) :
    ∃ m ends, (∀ t ∈ ends, Located.value t = .blockEnd) ∧ ends.length = blocks.length
      ∧ fetchEnd ⟨c, true, blocks, ka, [key], q, d⟩ = .ok (ended m (q ++ ends) d) := by
  let m : Mark := if c.mark.column == 0 then c.mark
    else { c.mark with line := c.mark.line + 1, column := 0 }
  refine ⟨m, blocks.map fun _ => ⟨.blockEnd, m, m⟩, fun t ht => ?_, List.length_map _, ?_⟩
  · obtain ⟨-, -, rfl⟩ := List.mem_map.mp ht
    rfl
  · have hroll : unroll ⟨⟨m, []⟩, true, blocks, ka, [key], q, d⟩ 0
        = ⟨⟨m, []⟩, true, [], ka, [key], q ++ blocks.map fun _ => ⟨.blockEnd, m, m⟩, d⟩ := by
      unfold unroll
      show (if false = true then _ else (⟨⟨m, []⟩, true, (closeBlocks 0 m blocks).1, ka, [key],
        q ++ (closeBlocks 0 m blocks).2, d⟩ : Lexer)) = _
      rw [if_neg Bool.false_ne_true, closeBlocks_all]
    unfold fetchEnd
    show (unroll ⟨⟨m, []⟩, true, blocks, ka, [key], q, d⟩ 0).dropKey >>= _ = _
    rw [hroll]
    cases key with
    | none => rfl
    | some k =>
        unfold dropKey
        simp only [hrequired k rfl]
        rfl

/-- At the end of the text all blocks are closed, whatever waits. -/
theorem fetch_over {s : Lexer} (hstarted : s.started = true) (hrest : s.cursor.rest = [])
    {key : Option KeyPlace} (hkeys : s.keys = [key]) (hrequired : ∀ k ∈ key, k.required = false) :
    ∃ m ends, (∀ t ∈ ends, Located.value t = .blockEnd) ∧ ends.length = s.blocks.length
      ∧ s.fetch = .ok (ended m (s.queue ++ ends) s.delivered) := by
  obtain ⟨⟨m, rest⟩, started, blocks, ka, keys, q, d⟩ := s
  subst hstarted hkeys hrest
  obtain ⟨key', hrequired', hdrop⟩ := dropStaleKeys_single
    (s := ⟨⟨m, []⟩, true, blocks, ka, [key], q, d⟩) rfl hrequired
  obtain ⟨ends, hclose, hends, hlength⟩ := closeBlocks_left ⟨m.column, .opening []⟩ m blocks
  let left := Line.left ⟨m.column, .opening []⟩ blocks
  obtain ⟨m', ends', hends', hlength', hend⟩ :=
    fetchEnd_single ⟨m, []⟩ left ka hrequired' (q ++ ends) d
  -- Blocks to the right of the place are closed here, the others by the end.
  have hroll : unroll ⟨⟨m, []⟩, true, blocks, ka, [key'], q, d⟩ (m.column + 1)
      = ⟨⟨m, []⟩, true, left, ka, [key'], q ++ ends, d⟩ := by
    unfold unroll
    show (if false = true then _ else (⟨⟨m, []⟩, true, (closeBlocks (m.column + 1) m blocks).1, ka,
      [key'], q ++ (closeBlocks (m.column + 1) m blocks).2, d⟩ : Lexer)) = _
    rw [if_neg Bool.false_ne_true, hclose]
  refine ⟨m', ends ++ ends', List.forall_mem_append.mpr ⟨hends, hends'⟩, ?_, ?_⟩
  · rw [List.length_append, hlength']
    exact hlength
  · show (dropStaleKeys ⟨⟨m, []⟩, true, blocks, ka, [key], q, d⟩ >>= _) = _
    rw [hdrop]
    show fetchToken (unroll ⟨⟨m, []⟩, true, blocks, ka, [key'], q, d⟩ (m.column + 1)) = _
    rw [hroll]
    exact hend.trans (by rw [List.append_assoc])

/-- A state in which nothing waits reads the end at once. -/
theorem endsWith_nil {s : Lexer} {n : Nat} (hstarted : s.started = true)
    (hrest : s.cursor.rest = []) (hqueue : s.queue = []) (hkeys : s.keys = [none])
    (hn : s.blocks.length + 2 ≤ n) : s.EndsWith n [] := by
  obtain ⟨m, ends, hends, hlength, hfetch⟩ := fetch_over hstarted hrest hkeys nofun
  rw [hqueue] at hfetch
  obtain ⟨ts, hrun, hvalues⟩ :=
    run_over (q := []) nofun hends m s.delivered (n - s.blocks.length - 2)
  refine ⟨ts, ?_, hvalues.trans (by rw [hlength]; rfl)⟩
  rw [List.nil_append, hlength] at hrun
  obtain ⟨p, rfl⟩ : ∃ p, n = p + 1 := ⟨n - 1, by omega⟩
  rw [run_fetch hqueue, hfetch, ← hrun]
  show run p _ = run _ _
  congr 1
  omega

section Waiting

variable {s : Lexer} {n : Nat} {t : Located Token} {k : KeyPlace} (hstarted : s.started = true)
  (hrest : s.cursor.rest = []) (hqueue : s.queue = [t]) (hvalue : t.value ≠ .streamEnd)
  (hkeys : s.keys = [some k]) (hrequired : k.required = false)
  (hn : s.blocks.length + 3 ≤ n)
include hstarted hrest hqueue hvalue hkeys hrequired hn

/-- A waiting token that is too long for a key is delivered before the end is
read. -/
theorem endsWith_stale (hstale : KeyPlace.isStale k s.mark = true) : s.EndsWith n [t.value] := by
  obtain ⟨p, rfl⟩ : ∃ p, n = p + 1 := ⟨n - 1, by omega⟩
  obtain ⟨ts, hrun, hvalues⟩ := endsWith_nil
    (s := { s with keys := [none], queue := [], delivered := s.delivered + 1 }) (n := p)
    hstarted hrest rfl rfl (by show s.blocks.length + 2 ≤ p; omega)
  refine ⟨t :: ts, ?_, ?_⟩
  · rw [run_stale hqueue hkeys hvalue hrequired hstale, hrun]
  · rw [List.map_cons, hvalues]
    rfl

/-- A waiting token that may be a key is delivered after the end was read. -/
theorem endsWith_fresh (hnumber : k.tokenNumber = s.delivered)
    (hfresh : s.Fresh) : s.EndsWith n [t.value] := by
  obtain ⟨p, rfl⟩ : ∃ p, n = p + 1 := ⟨n - 1, by omega⟩
  obtain ⟨m, ends, hends, hlength, hfetch⟩ := fetch_over hstarted hrest hkeys
    fun k' hk' => Option.some.inj hk' ▸ hrequired
  rw [hqueue] at hfetch
  obtain ⟨ts, hrun, hvalues⟩ := run_over (q := [t])
    (List.forall_mem_singleton.mpr hvalue) hends m s.delivered (p - s.blocks.length - 2)
  refine ⟨ts, ?_, hvalues.trans (by rw [hlength]; rfl)⟩
  rw [run_waiting hqueue hkeys hnumber hfresh, hfetch, ← hrun]
  show run p _ = run _ _
  congr 1
  rw [List.length_append, hlength, List.length_singleton]
  omega

end Waiting

/-- **The end of the text gives up what waits**, closes the open blocks and
nothing follows. -/
theorem Finished.run_end {s : Lexer} (h : s.Finished) {n : Nat} (hn : s.potential + 2 ≤ n) :
    s.EndsWith n (s.queue.map Located.value) := by
  obtain ⟨hstarted, hrest, hwaits⟩ := h
  have hpotential : s.potential = s.blocks.length + s.queue.length := by
    unfold potential
    rw [hrest, List.length_nil, Nat.mul_zero, Nat.zero_add]
  rw [hpotential] at hn
  rcases hwaits with ⟨hqueue, hkeys⟩ | ⟨t, k, hqueue, hvalue, hkeys, hrequired, hnumber⟩
  · rw [hqueue] at hn ⊢
    exact endsWith_nil hstarted hrest hqueue hkeys hn
  · rw [hqueue] at hn ⊢
    by_cases hstale : KeyPlace.isStale k s.mark = true
    · exact endsWith_stale hstarted hrest hqueue hvalue hkeys hrequired hn hstale
    · exact endsWith_fresh hstarted hrest hqueue hvalue hkeys hrequired hn hnumber
        (fresh_single hkeys hstale)

/-! ## §2. The last line. -/

/-- What was read of a value at the end of the text, which may wait. -/
structure LastRead (s : Lexer) (v : Scalar) (m : Mark) (blocks : List Nat) (keyAllowed : Bool)
    (d : Nat) : Prop where
  started : s.started = true
  blocks : s.blocks = blocks
  keys : s.keys = [saved keyAllowed m d]
  queue : s.queue.map Located.value = [v.token]
  delivered : s.delivered = d
  rest : s.cursor.rest = []

/-- A plain scalar is read up to the end of the text. -/
theorem fetch_plain_last {w : List Char} (hw : IsWord w) {m : Mark} {b : Nat} (hb : b ≤ m.column)
    (bs : List Nat) (ka : Bool) (d : Nat) :
    ∃ s', (beforeValue m (' ' :: w) (b :: bs) ka d).fetch = .ok s'
      ∧ LastRead s' (.plain w) (m.advance 1) (b :: bs) ka d := by
  have hread : readPlain ⟨false, b + 1, m.advance 1⟩ [] .none (m.advance 1) (m.advance 1) (w ++ [])
      = .ok ⟨String.ofList w, (m.advance 1).advance w.length,
          ⟨(m.advance 1).advance w.length, []⟩, false⟩ := by
    rw [readPlain_word ⟨false, b + 1, m.advance 1⟩ rfl hw.2.2 [] [] (m.advance 1)
      (.inl (Nat.succ_ne_zero _)), List.append_nil]
    show Except.ok (PlainScalar.upTo w.reverse _ .none _) = _
    unfold PlainScalar.upTo
    rw [List.reverse_reverse]
    rfl
  have hfetch := fetch_plainText hw hb bs hread ka d
  rw [List.append_nil] at hfetch
  exact ⟨_, hfetch, rfl, rfl, rfl, rfl, rfl, rfl⟩

/-- A quoted scalar is read up to its quote. -/
theorem fetch_quoted_last {cs : List Char} (hcs : ∀ c ∈ cs, isPrintableAscii c = true) {m : Mark}
    {b : Nat} (hb : b ≤ m.column) (bs : List Nat) (ka : Bool) (d : Nat) :
    ∃ s', (beforeValue m (' ' :: (Scalar.quoted cs).written) (b :: bs) ka d).fetch = .ok s'
      ∧ LastRead s' (.quoted cs) (m.advance 1) (b :: bs) ka d := by
  obtain ⟨stop, hfetch, -⟩ := fetch_quotedText hcs hb bs [] ka d
  rw [List.append_nil] at hfetch
  exact ⟨_, hfetch, rfl, rfl, rfl, rfl, rfl, rfl⟩

/-- **The scalar of the last line is read.** -/
theorem fetch_scalar_last {v : Scalar} (hv : v.Legible) {m : Mark} {b : Nat} (hb : b ≤ m.column)
    (bs : List Nat) (ka : Bool) (d : Nat) :
    ∃ s', (beforeValue m (' ' :: v.written) (b :: bs) ka d).fetch = .ok s'
      ∧ LastRead s' v (m.advance 1) (b :: bs) ka d := by
  cases v with
  | plain w => exact fetch_plain_last hv hb bs ka d
  | quoted cs => exact fetch_quoted_last hv hb bs ka d

/-- The place where the last line is left. -/
structure LeftOver (s : Lexer) (blocks : List Nat) : Prop where
  finished : s.Finished
  blocks : s.blocks = blocks

/-- Where nothing is read behind a key, its line is left at the end of the text. -/
theorem leftOver_inside (m : Mark) (blocks : List Nat) (d : Nat) :
    (inside m [] blocks d).LeftOver blocks := ⟨⟨rfl, rfl, .inl ⟨rfl, rfl⟩⟩, rfl⟩

/-- The last value is read, and where it may be a key it waits. -/
theorem emits_lastValue {v : Scalar} (hv : v.Legible) {m : Mark} {b : Nat} (hb : b ≤ m.column)
    (bs : List Nat) (ka : Bool) (d : Nat) :
    ∃ V s', Emits (beforeValue m (' ' :: v.written) (b :: bs) ka d) V s'
      ∧ s'.LeftOver (b :: bs) ∧ [v.token] = V ++ s'.queue.map Located.value := by
  obtain ⟨s', hfetch, hstarted, hblocks, hkeys, hqueue, hdelivered, hrest⟩ :=
    fetch_scalar_last hv hb bs ka d
  have hshorter : s'.cursor.rest.length < (' ' :: v.written).length := by
    rw [hrest]
    exact Nat.succ_pos _
  obtain ⟨t, ht, htoken, hone⟩ := emits_read rfl hfetch hqueue hblocks hshorter
  -- Only where a key may begin does the token wait.
  cases ka with
  | false =>
      refine ⟨_, _, hone.trans (emits_all hkeys (ht ▸ List.forall_mem_singleton.mpr htoken)),
        ⟨⟨hstarted, hrest, .inl ⟨rfl, hkeys⟩⟩, hblocks⟩, ?_⟩
      rw [hqueue]
      rfl
  | true =>
      refine ⟨_, _, hone, ⟨⟨hstarted, hrest,
        .inr ⟨t, _, ht, htoken, hkeys, rfl, hdelivered.symm⟩⟩, hblocks⟩, ?_⟩
      rw [hqueue]
      rfl

/-- **The last line gives the tokens of its layout**, the last of which may
wait. -/
theorem emits_lastLine {s : Lexer} {m : Mark} {l : Line} (h : s.Ready m l.content.written)
    (hm : m.column = l.column) (hl : l.content.Legible) (hshort : l.content.IsShort) :
    ∃ V s', Emits s V s' ∧ s'.LeftOver (l.after s.blocks)
      ∧ s.queue.map Located.value ++ l.tokens s.blocks = V ++ s'.queue.map Located.value := by
  rw [← List.append_nil l.content.written] at h
  refine h.emits_content LeftOver hm hl hshort rfl (fun _ _ _ => leftOver_inside _ _ _) ?_
  intro v m bs ka d hv _ hb
  rw [List.append_nil]
  exact emits_lastValue hv hb bs ka d

end Lexer

/-! ## §3. A whole text. -/

/-- The characters of lines after the indentation of the first one, without
the line break of the last one. -/
def unendedFrom (l : Line) : List Line → List Char
  | [] => l.content.written
  | l' :: ls => l.content.written ++ '\n' :: (List.replicate l'.column ' ' ++ unendedFrom l' ls)

/-- The characters of lines of which the last is not ended. -/
def unended (l : Line) (ls : List Line) : List Char :=
  List.replicate l.column ' ' ++ unendedFrom l ls

theorem fromFirst_unended (l : Line) (ls : List Line) :
    fromFirst (l :: ls) = unendedFrom l ls ++ ['\n'] := by
  induction ls generalizing l with
  | nil => rfl
  | cons l' ls ih =>
      show l.content.written ++ '\n' :: written (l' :: ls) = _
      rw [written_fromFirst, ih]
      show _ = (l.content.written ++ '\n' :: (List.replicate l'.column ' ' ++ unendedFrom l' ls)) ++ _
      rw [List.append_assoc, List.cons_append, List.append_assoc]
      rfl

/-- With its line break the last line is a line like the others. -/
theorem written_unended (l : Line) (ls : List Line) :
    written (l :: ls) = unended l ls ++ ['\n'] := by
  rw [written_fromFirst, fromFirst_unended]
  unfold unended
  rw [List.append_assoc]
  rfl

theorem startsInk_unended {l : Line} {ls : List Line} (h : Legible (l :: ls)) :
    StartsInk (unendedFrom l ls) := by
  have hfirst := startsInk_fromFirst h
  rw [fromFirst_unended] at hfirst
  intro c hc
  exact hfirst c (by rw [List.head?_append, hc]; rfl)

namespace Lexer

/-- **Lines of which the last is not ended give the tokens of their layout**,
up to the blocks that are still open. -/
theorem emits_unended {s : Lexer} {blocks : List Nat} {l : Line} {ls : List Line}
    (hl : Legible (l :: ls)) (hshort : ∀ l' ∈ l :: ls, l'.content.IsShort)
    (h : s.LeftFor blocks l.column (unendedFrom l ls)) :
    ∃ V s' left, Emits s V s' ∧ s'.LeftOver left
      ∧ s.queue.map Located.value ++ layout blocks (l :: ls)
          = V ++ (s'.queue.map Located.value ++ List.replicate left.length .blockEnd) := by
  induction ls generalizing s blocks l with
  | nil =>
      obtain ⟨⟨m, hready, hm⟩, rfl⟩ := h
      obtain ⟨V, s', hline, hleft, htokens⟩ :=
        emits_lastLine hready hm hl.1 (hshort l (List.mem_cons_self ..))
      refine ⟨V, s', _, hline, hleft, ?_⟩
      unfold layout
      rw [← List.append_assoc, htokens, List.append_assoc]
      rfl
  | cons l' ls ih =>
      obtain ⟨⟨m, hready, hm⟩, rfl⟩ := h
      obtain ⟨hlegible, hdeeper, hrest⟩ := hl
      -- What the first line leaves waiting comes before the tokens of the others.
      obtain ⟨V, s₁, hline, hleft, htokens⟩ :=
        emits_line hready hm hlegible (hshort l (List.mem_cons_self ..)) (hdeeper l' rfl)
          (startsInk_unended hrest)
      obtain ⟨W, s', left, hlines, hend, hlayout⟩ :=
        ih hrest (fun l'' hl'' => hshort l'' (List.mem_cons_of_mem _ hl'')) hleft
      refine ⟨V ++ W, s', left, hline.trans hlines, hend, ?_⟩
      unfold layout
      rw [← List.append_assoc, htokens, List.append_assoc, hlayout, List.append_assoc]

end Lexer

/-- **The tokens of lines of which the last is not ended** are those of their
layout. -/
theorem tokens_unended {l : Line} {ls : List Line} (h : Legible (l :: ls))
    (hshort : ∀ l' ∈ l :: ls, l'.content.IsShort) :
    ∃ ts, tokens (unended l ls) = (ts, none)
      ∧ ts.map Located.value = .streamStart :: (layout [] (l :: ls) ++ [.streamEnd]) := by
  let text := unended l ls
  let s : Lexer := Lexer.prepared {} text [] [] 1
  have hleft : s.LeftFor [] l.column (unendedFrom l ls) := by
    have hskip : skipToToken false true false {} text
        = (true, ⟨Mark.advance {} l.column, unendedFrom l ls⟩) := by
      rw [show text = List.replicate l.column ' ' ++ unendedFrom l ls from rfl,
        skipToToken_blanks, skipToToken_ink (startsInk_unended h)]
    refine ⟨⟨_, ⟨rfl, hskip, ?_, .inl ⟨rfl, rfl⟩⟩, Nat.zero_add _⟩, rfl⟩
    show (unendedFrom l ls).length ≤ (unended l ls).length
    unfold unended
    rw [List.length_append]
    omega
  obtain ⟨V, s', left, hlines, ⟨hfinished, rfl⟩, hlayout⟩ := Lexer.emits_unended h hshort hleft
  have hallowed : ∀ c ∈ text, isAllowed c = true := fun c hc =>
    isAllowed_written h c (written_unended l ls ▸ List.mem_append_left _ hc)
  exact tokens_of_emits hallowed hlines (fun n hn => hfinished.run_end hn) hlayout

/-- The characters are those of the lines, with the line break of the last one
or without it. -/
def IsTextOf (cs : List Char) (ls : List Line) : Prop := cs = written ls ∨ cs ++ ['\n'] = written ls

/-- **The document of the lines of a mapping**, the last of which need not be
ended. -/
theorem document_text {text : String} {ps : List Pair} (htext : IsTextOf text.toList (pairLines ps))
    (h : ∀ p ∈ ps, p.Legible) (hshort : ∀ p ∈ ps, p.IsShort) (hne : ps ≠ []) :
    ParsesAs text ps := by
  rw [← String.ofList_toList (s := text)]
  rcases htext with htext | htext
  · rw [htext]
    exact document_pairs h hshort hne
  · cases hlines : pairLines ps with
    | nil => exact absurd (hlines ▸ htext) (List.concat_ne_nil _ _)
    | cons l ls =>
        rw [hlines, written_unended] at htext
        rw [List.append_cancel_right htext]
        have hlegible := legible_pairs h
        have hshorts := short_pairs hshort
        rw [hlines] at hlegible hshorts
        refine parsesAs_tokens h hne ?_
        rw [hlines]
        exact tokens_unended hlegible hshorts

end Provision.Yaml
