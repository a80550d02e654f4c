/-
  Provision.Proofs.LexedLines
  ───────────────────────────
  **LINES ARE READ AS THEIR LAYOUT.**

  Each line is read from a state that is ready for it to one that is ready
  for the next; at the end of the text all blocks are closed.  So the lexer
  gives exactly the tokens that the layout asks for.

  Main results:

    `emits_line`         a line gives the tokens of its layout
    `Ready.run_end`      at the end of the text the open blocks are closed
    `tokens_of_emits`    the tokens of a text, from those of its lines and its end
    `tokens_lines`       the tokens of lines are those of their layout
-/
import Provision.Proofs.LineTokens

namespace Provision.Yaml

namespace Lexer

/-! ## §1. Lines. -/

/-- After a line break and the indentation the lexer is ready for the next line. -/
theorem ready_inside {m : Mark} {n : Nat} {next : List Char} (hnext : StartsInk next)
    (blocks : List Nat) (d : Nat) :
    (inside m ('\n' :: (List.replicate n ' ' ++ next)) blocks d).Ready
      ((m.newLine 1).advance n) next where
  started := rfl
  reaches := skipToToken_line _ _ _ hnext
  shorter := by
    show next.length ≤ ('\n' :: (List.replicate n ' ' ++ next)).length
    rw [List.length_cons, List.length_append]
    omega
  waits := .inl ⟨rfl, rfl⟩

/-- The place where a line is left for the next one. -/
structure LeftFor (s : Lexer) (blocks : List Nat) (n : Nat) (next : List Char) : Prop where
  ready : ∃ m, s.Ready m next ∧ m.column = n
  blocks : s.blocks = blocks

/-- A value that was read leaves its line, and where it may be a key it waits. -/
theorem emits_value {v : Scalar} (hv : v.Legible) {m : Mark} {b : Nat} (hb : b ≤ m.column)
    (bs : List Nat) {n : Nat} {next : List Char} (hn : v.isPlain = true → n ≤ b)
    (hnext : StartsInk next) (ka : Bool) (d : Nat) :
    ∃ V s', Emits (beforeValue m (' ' :: (v.written ++ '\n' :: (List.replicate n ' ' ++ next)))
        (b :: bs) ka d) V s'
      ∧ s'.LeftFor (b :: bs) n next ∧ [v.token] = V ++ s'.queue.map Located.value := by
  obtain ⟨s', hfetch, hstarted, hblocks, hkeys, hqueue, hdelivered,
    ⟨m', hreaches, hcolumn, hline⟩, hshorter, hlonger⟩ := fetch_scalar hv hb bs hn hnext ka d
  have hrest : s'.cursor.rest.length
      < (' ' :: (v.written ++ '\n' :: (List.replicate n ' ' ++ next))).length := by
    simp only [List.length_cons, List.length_append, List.length_replicate]
    omega
  obtain ⟨t, ht, htoken, hone⟩ := emits_read rfl hfetch hqueue hblocks hrest
  -- Only where a key may begin does the token wait for a colon behind it.
  cases ka with
  | false =>
      refine ⟨_, _, hone.trans (emits_all hkeys (ht ▸ List.forall_mem_singleton.mpr htoken)),
        ⟨⟨m', ⟨hstarted, hreaches, hshorter, .inl ⟨rfl, hkeys⟩⟩, hcolumn⟩, hblocks⟩, ?_⟩
      rw [hqueue]
      rfl
  | true =>
      refine ⟨_, _, hone, ⟨⟨m', ⟨hstarted, hreaches, hshorter,
        .inr ⟨t, _, ht, htoken, hkeys, rfl, hdelivered.symm, hline⟩⟩, hcolumn⟩, hblocks⟩, ?_⟩
      rw [hqueue]
      rfl

/-- **A line gives the tokens of its layout**, the last of which may wait. -/
theorem emits_line {s : Lexer} {m : Mark} {l : Line} {n : Nat} {next : List Char}
    (h : s.Ready m (l.content.written ++ '\n' :: (List.replicate n ' ' ++ next)))
    (hm : m.column = l.column) (hl : l.content.Legible) (hshort : l.content.IsShort)
    (hn : l.content.goesOn = true → n ≤ l.column) (hnext : StartsInk next) :
    ∃ V s', Emits s V s' ∧ s'.LeftFor (l.after s.blocks) n next
      ∧ s.queue.map Located.value ++ l.tokens s.blocks = V ++ s'.queue.map Located.value :=
  h.emits_content (fun s' bs => s'.LeftFor bs n next) hm hl hshort rfl
    (fun _ _ _ => ⟨⟨_, ready_inside hnext _ _, Nat.zero_add n⟩, rfl⟩)
    fun _ _ bs ka d hv hgoesOn hb =>
      emits_value hv hb bs (fun hplain => hn (hgoesOn hplain)) hnext ka d

end Lexer

/-- The column of the first of these lines. -/
def firstColumn : List Line → Nat
  | [] => 0
  | l :: _ => l.column

/-- The characters of lines after the indentation of the first one. -/
def fromFirst : List Line → List Char
  | [] => []
  | l :: ls => l.content.written ++ '\n' :: written ls

/-- The written lines begin with the indentation of the first one. -/
theorem written_fromFirst (ls : List Line) :
    written ls = List.replicate (firstColumn ls) ' ' ++ fromFirst ls := by
  cases ls with
  | nil => rfl
  | cons l ls =>
      show l.written ++ written ls = _
      unfold Line.written
      rw [List.append_assoc, List.append_assoc]
      rfl

/-- Lines begin with ink, once the indentation is gone past. -/
theorem startsInk_fromFirst {ls : List Line} (h : Legible ls) : StartsInk (fromFirst ls) := by
  cases ls with
  | nil => exact nofun
  | cons l ls =>
      obtain ⟨column, content⟩ := l
      show StartsInk (content.written ++ _)
      cases content with
      | entry key v =>
          unfold Content.written
          rw [List.append_assoc]
          exact Lexer.startsInk_word h.1.1.1 _
      | empty key =>
          unfold Content.written
          rw [List.append_assoc]
          exact Lexer.startsInk_word h.1.1 _
      | opening key =>
          unfold Content.written
          rw [List.append_assoc]
          exact Lexer.startsInk_word h.1.1 _
      | item v =>
          intro x hx
          rw [← Option.some.inj hx]
          decide

namespace Lexer

/-- **Lines give the tokens of their layout**, up to the blocks that are still
open. -/
theorem emits_lines {s : Lexer} {blocks : List Nat} {ls : List Line} (hl : Legible ls)
    (hshort : ∀ l ∈ ls, l.content.IsShort) (h : s.LeftFor blocks (firstColumn ls) (fromFirst ls)) :
    ∃ V s' left, Emits s V s' ∧ s'.LeftFor left 0 []
      ∧ s.queue.map Located.value ++ layout blocks ls
          = V ++ (s'.queue.map Located.value ++ List.replicate left.length .blockEnd) := by
  induction ls generalizing s blocks with
  | nil => exact ⟨[], s, blocks, emits_refl s, h, rfl⟩
  | cons l ls ih =>
      obtain ⟨⟨m, hready, hm⟩, rfl⟩ := h
      obtain ⟨hlegible, hdeeper, hrest⟩ := hl
      have hnext : l.content.goesOn = true → firstColumn ls ≤ l.column := by
        intro hgoes
        cases ls with
        | nil => exact Nat.zero_le _
        | cons l' ls => exact hdeeper l' rfl hgoes
      have hfirst : fromFirst (l :: ls)
          = l.content.written ++ '\n' :: (List.replicate (firstColumn ls) ' ' ++ fromFirst ls) := by
        rw [← written_fromFirst]
        rfl
      rw [hfirst] at hready
      obtain ⟨V, s₁, hline, hleft, htokens⟩ :=
        emits_line hready hm hlegible (hshort l (List.mem_cons_self ..)) hnext
          (startsInk_fromFirst hrest)
      obtain ⟨W, s', left, hlines, hend, hlayout⟩ :=
        ih hrest (fun l' hl' => hshort l' (List.mem_cons_of_mem _ hl')) hleft
      refine ⟨V ++ W, s', left, hline.trans hlines, hend, ?_⟩
      unfold layout
      rw [← List.append_assoc, htokens, List.append_assoc, hlayout, List.append_assoc]

/-- At the end of the text every block is closed. -/
theorem closeBlocks_all (m : Mark) (blocks : List Nat) :
    closeBlocks 0 m blocks = ([], blocks.map fun _ => ⟨.blockEnd, m, m⟩) := by
  induction blocks with
  | nil => rfl
  | cons b bs ih =>
      unfold closeBlocks
      rw [if_pos (Nat.zero_le b), ih]
      rfl

/-- The lexer after the end of the text was read. -/
def ended (m : Mark) (queue : List (Located Token)) (delivered : Nat) : Lexer :=
  { inside m [] [] delivered with queue := queue ++ [⟨.streamEnd, m, m⟩] }

/-- The end of the text closes all blocks. -/
theorem fetch_end {m : Mark} (hm : m.column = 0) (blocks : List Nat) :
    ∃ ends : List (Located Token), (∀ t ∈ ends, t.value = .blockEnd) ∧ ends.length = blocks.length
      ∧ ∀ q d, ((prepared m [] blocks q d).unroll (m.column + 1)).fetchToken
          = .ok (ended m (q ++ ends) d) := by
  obtain ⟨ends, hends, hlength, hunroll⟩ := unroll_prepared ⟨0, .opening []⟩ hm [] blocks
  let left := Line.left ⟨0, .opening []⟩ blocks
  let last : List (Located Token) := left.map fun _ => ⟨.blockEnd, m, m⟩
  refine ⟨ends ++ last, fun t ht => ?_, ?_, fun q d => ?_⟩
  · rcases List.mem_append.mp ht with ht | ht
    · exact hends t ht
    · obtain ⟨-, -, rfl⟩ := List.mem_map.mp ht
      rfl
  · rw [List.length_append, List.length_map]
    exact hlength
  · have hroll : (prepared m [] left (q ++ ends) d).unroll 0
        = prepared m [] [] (q ++ ends ++ last) d := by
      unfold unroll
      show (if false = true then _ else (⟨⟨m, []⟩, true, (closeBlocks 0 m left).1, true, [none],
        q ++ ends ++ (closeBlocks 0 m left).2, d⟩ : Lexer)) = _
      rw [if_neg Bool.false_ne_true, closeBlocks_all]
      rfl
    rw [hunroll]
    show (prepared m [] left (q ++ ends) d).fetchEnd = _
    unfold fetchEnd
    rw [show (prepared m [] left (q ++ ends) d).mark = m from rfl, hm]
    show ((prepared m [] left (q ++ ends) d).unroll 0).dropKey >>= _ = _
    rw [hroll, ← List.append_assoc]
    rfl

/-- **A lexer at the end delivers what it has** and then the end of the stream. -/
theorem run_ended (m : Mark) {q : List (Located Token)} (hq : ∀ t ∈ q, t.value ≠ .streamEnd)
    (d n : Nat) : run (n + 1 + q.length) (ended m q d) = (q ++ [⟨.streamEnd, m, m⟩], none) := by
  induction q generalizing d with
  | nil => rfl
  | cons t q ih =>
      have hfresh : (ended m (t :: q) d).Fresh := fresh_noKey rfl
      have hhead : (ended m (t :: q) d).headMayBeKey = false := rfl
      have hrest := ih (fun u hu => hq u (List.mem_cons_of_mem _ hu)) (d + 1)
      rw [List.length_cons, ← Nat.add_assoc]
      conv => lhs; unfold run
      simp only [show (ended m (t :: q) d).queue = t :: (q ++ [⟨.streamEnd, m, m⟩]) from rfl,
        dropStaleKeys_fresh hfresh]
      show (if (ended m (t :: q) d).headMayBeKey then _ else _) = _
      rw [hhead, if_neg Bool.false_ne_true, if_neg (hq t (List.mem_cons_self ..))]
      show (t :: (run _ (ended m q (d + 1))).1, (run _ (ended m q (d + 1))).2) = _
      rw [hrest]
      rfl

/-- The tokens of a run to the end of the text. -/
def EndsWith (n : Nat) (s : Lexer) (V : List Token) : Prop :=
  ∃ ts, run n s = (ts, none)
    ∧ ts.map Located.value = V ++ (List.replicate s.blocks.length .blockEnd ++ [.streamEnd])

/-- Tokens that are delivered with the ends of all blocks are followed by the end of
the stream. -/
theorem run_over {q ends : List (Located Token)} (hq : ∀ t ∈ q, t.value ≠ .streamEnd)
    (hends : ∀ t ∈ ends, Located.value t = .blockEnd) (m : Mark) (d p : Nat) :
    ∃ ts, run (p + 1 + (q ++ ends).length) (ended m (q ++ ends) d) = (ts, none)
      ∧ ts.map Located.value
        = q.map Located.value ++ (List.replicate ends.length .blockEnd ++ [.streamEnd]) := by
  refine ⟨_, run_ended m (fun t ht => ?_) d p, ?_⟩
  · rcases List.mem_append.mp ht with ht | ht
    · exact hq t ht
    · rw [hends t ht]
      nofun
  · rw [List.map_append, List.map_append, values_ends hends, List.append_assoc]
    rfl

/-- **At the end of the text the open blocks are closed**, and nothing follows. -/
theorem Ready.run_end {s : Lexer} {m : Mark} (h : s.Ready m []) (hm : m.column = 0) {n : Nat}
    (hn : s.potential + 2 ≤ n) : s.EndsWith n (s.queue.map Located.value) := by
  obtain ⟨V, s₁, ⟨ts, k, rfl, hk, hbefore⟩, hvalues, -, hwaiting, hpotential, hrun⟩ := h.first
  obtain ⟨ends, hends, hlength, hfetch⟩ := fetch_end hm s.blocks
  obtain ⟨p, rfl⟩ : ∃ p, n = (p + 1 + (s₁.queue ++ ends).length) + 1 + k := by
    refine ⟨n - k - (s₁.queue ++ ends).length - 2, ?_⟩
    rw [List.length_nil] at hpotential
    rw [List.length_append]
    omega
  obtain ⟨ts', hover, hvalues'⟩ := run_over hwaiting hends m s₁.delivered p
  refine ⟨ts ++ ts', ?_, ?_⟩
  · rw [hbefore, hrun, hfetch]
    show (ts ++ (run _ (ended m _ _)).1, (run _ (ended m _ _)).2) = _
    rw [hover]
  · rw [List.map_append, hvalues', ← List.append_assoc, hvalues, hlength]

end Lexer

/-! ## §2. A whole text. -/

/-- Printable characters of ASCII may stand in any text. -/
theorem isAllowed_printableAscii {c : Char} (h : isPrintableAscii c = true) :
    isAllowed c = true := by
  unfold isPrintableAscii at h
  unfold isAllowed
  simp only [h, Bool.or_true, Bool.true_or]

theorem forbiddenOffset?_eq_none {cs : List Char} (h : ∀ c ∈ cs, isAllowed c = true) (n : Nat) :
    forbiddenOffset? n cs = none := by
  induction cs generalizing n with
  | nil => rfl
  | cons c cs ih =>
      unfold forbiddenOffset?
      rw [if_pos (h c (List.mem_cons_self ..))]
      exact ih (fun d hd => h d (List.mem_cons_of_mem _ hd)) _

/-- The characters of a scalar are printable. -/
theorem printable_written {v : Scalar} (h : v.Legible) :
    ∀ c ∈ v.written, isPrintableAscii c = true := by
  intro c hc
  cases v with
  | plain w => exact isPrintableAscii_plainChar (h.2.2 c hc)
  | quoted cs =>
      unfold Scalar.written at hc
      simp only [List.mem_cons, List.mem_append, List.mem_flatMap, List.not_mem_nil, or_false] at hc
      rcases hc with rfl | ⟨d, hd, hc⟩ | rfl
      · decide
      · unfold escaped at hc
        split at hc
        · rcases List.mem_cons.mp hc with rfl | hc
          · decide
          · rw [List.mem_singleton.mp hc]
            exact h d hd
        · rw [List.mem_singleton.mp hc]
          exact h d hd
      · decide

/-- What is written on a line is printable. -/
theorem printable_content {x : Content} (h : x.Legible) :
    ∀ c ∈ x.written, isPrintableAscii c = true := by
  have hkey : ∀ {key : List Char}, IsKey key → ∀ c ∈ key, isPrintableAscii c = true :=
    fun hkey c hc => isPrintableAscii_plainChar (hkey.word.2.2 c hc)
  have hsign : ∀ c ∈ [':', ' ', '[', ']', '-'], isPrintableAscii c = true :=
    List.all_eq_true.mp (by decide)
  intro c hc
  cases x with
  | entry key v =>
      rcases List.mem_append.mp hc with hc | hc
      · exact hkey h.1 c hc
      · rcases List.mem_cons.mp hc with rfl | hc
        · decide
        · rcases List.mem_cons.mp hc with rfl | hc
          · decide
          · exact printable_written h.2 c hc
  | empty key =>
      rcases List.mem_append.mp hc with hc | hc
      · exact hkey h c hc
      · exact hsign c (List.mem_append_left ['-'] hc)
  | opening key =>
      rcases List.mem_append.mp hc with hc | hc
      · exact hkey h c hc
      · exact hsign c (List.mem_append_left [' ', '[', ']', '-'] hc)
  | item v =>
      rcases List.mem_cons.mp hc with rfl | hc
      · decide
      · rcases List.mem_cons.mp hc with rfl | hc
        · decide
        · exact printable_written h c hc

/-- The characters of lines are printable or end a line. -/
theorem printable_lines {ls : List Line} (h : Legible ls) :
    ∀ c ∈ written ls, isPrintableAscii c = true ∨ c = '\n' := by
  induction ls with
  | nil => exact nofun
  | cons l ls ih =>
      intro c hc
      rcases List.mem_append.mp hc with hc | hc
      · rcases List.mem_append.mp hc with hc | hc
        · rw [List.eq_of_mem_replicate hc]
          exact .inl (by decide)
        · rcases List.mem_append.mp hc with hc | hc
          · exact .inl (printable_content h.1 c hc)
          · exact .inr (List.mem_singleton.mp hc)
      · exact ih h.2.2 c hc

/-- No character of the written lines is refused. -/
theorem isAllowed_written {ls : List Line} (h : Legible ls) :
    ∀ c ∈ written ls, isAllowed c = true := by
  intro c hc
  rcases printable_lines h c hc with hc | rfl
  · exact isAllowed_printableAscii hc
  · decide

/-- **The tokens of a text**: those that its lines give, and then those of its end,
for which the lines leave enough fuel. -/
theorem tokens_of_emits {text : List Char} {V L : List Token} {s' : Lexer}
    (hallowed : ∀ c ∈ text, isAllowed c = true)
    (hlines : (Lexer.prepared {} text [] [] 1).Emits V s')
    (hend : ∀ n, s'.potential + 2 ≤ n → s'.EndsWith n (s'.queue.map Located.value))
    (hlayout : L = V ++ (s'.queue.map Located.value
      ++ List.replicate s'.blocks.length .blockEnd)) :
    ∃ ts, tokens text = (ts, none)
      ∧ ts.map Located.value = .streamStart :: (L ++ [.streamEnd]) := by
  obtain ⟨ts, k, rfl, hk, hrun⟩ := hlines
  have hpotential : (Lexer.prepared {} text [] [] 1).potential = 8 * text.length := rfl
  obtain ⟨ts', hover, hvalues⟩ := hend (8 * text.length + 62 - k) (by omega)
  refine ⟨⟨.streamStart, {}, {}⟩ :: (ts ++ ts'), ?_, ?_⟩
  · unfold tokens
    rw [forbiddenOffset?_eq_none hallowed]
    show (⟨.streamStart, {}, {}⟩
        :: (Lexer.run (8 * text.length + 62) (Lexer.prepared {} text [] [] 1)).1,
      (Lexer.run (8 * text.length + 62) (Lexer.prepared {} text [] [] 1)).2) = _
    rw [show 8 * text.length + 62 = 8 * text.length + 62 - k + k by omega, hrun, hover]
  · rw [List.map_cons, List.map_append, hvalues, hlayout]
    simp only [List.append_assoc]

/-- **The tokens of lines are those of their layout.** -/
theorem tokens_lines {ls : List Line} (h : Legible ls) (hshort : ∀ l ∈ ls, l.content.IsShort) :
    ∃ ts, tokens (written ls) = (ts, none)
      ∧ ts.map Located.value = .streamStart :: (layout [] ls ++ [.streamEnd]) := by
  let text := written ls
  let s : Lexer := Lexer.prepared {} text [] [] 1
  have hleft : s.LeftFor [] (firstColumn ls) (fromFirst ls) := by
    have hskip : skipToToken false true false {} text
        = (true, ⟨Mark.advance {} (firstColumn ls), fromFirst ls⟩) := by
      rw [show text = _ from written_fromFirst ls, skipToToken_blanks,
        skipToToken_ink (startsInk_fromFirst h)]
    refine ⟨⟨_, ⟨rfl, hskip, ?_, .inl ⟨rfl, rfl⟩⟩, Nat.zero_add _⟩, rfl⟩
    show (fromFirst ls).length ≤ (written ls).length
    rw [written_fromFirst ls, List.length_append]
    omega
  obtain ⟨V, s', left, hlines, ⟨⟨m, hready, hm⟩, rfl⟩, hlayout⟩ :=
    Lexer.emits_lines h hshort hleft
  exact tokens_of_emits (isAllowed_written h) hlines (fun n hn => hready.run_end hm hn) hlayout

end Provision.Yaml
