/-
  Provision.Proofs.ScalarTexts
  ────────────────────────────
  **SCALARS ARE READ FROM THEIR OWN TEXTS.**

  A scalar is written plain or between double quotes.  Whatever follows it,
  the readers take exactly the characters that were written and stop where
  the scalar ends: a plain one at a colon or at the end of its line, together
  with the indentation of the next line, a quoted one after its quote.

  Main results:

    `readPlain_line`        a plain scalar ends with its line
    `readPlain_colon`       a plain scalar ends before a colon
    `readQuoted_escaped`    a quoted text is read without its escapes
    `skipToToken_line`      between two lines only the indentation is gone past
-/
import Provision.Yaml.Lexer

namespace Provision.Yaml

/-! ## §1. Marks. -/

namespace Mark

@[simp] theorem advance_advance (m : Mark) (a b : Nat) :
    (m.advance a).advance b = m.advance (a + b) := by
  simp only [advance, Nat.add_assoc]

@[simp] theorem column_advance (m : Mark) (n : Nat) : (m.advance n).column = m.column + n := rfl

@[simp] theorem column_newLine (m : Mark) (n : Nat) : (m.newLine n).column = 0 := rfl

end Mark

/-! ## §2. Characters. -/

/-- The characters of plain scalars: letters, digits and a few signs that mean
nothing outside brackets. -/
def isPlainChar (c : Char) : Bool := c.isAlphanum || "._+/~-".toList.contains c

/-- The printable characters of ASCII, the blank among them. -/
def isPrintableAscii (c : Char) : Bool := 0x20 ≤ c.toNat && c.toNat ≤ 0x7E

/-- The texts that are written plain: words, but not a hyphen alone, which
would begin an item. -/
def IsWord (cs : List Char) : Prop := cs ≠ [] ∧ cs ≠ ['-'] ∧ ∀ c ∈ cs, isPlainChar c = true

/-- Characters with a meaning are none of plain scalars. -/
theorem ne_of_plainChar {c x : Char} (h : isPlainChar c = true) (hx : isPlainChar x = false) :
    c ≠ x := by
  intro heq
  rw [heq, hx] at h
  cases h

/-- No character of a plain scalar is a blank or a tab. -/
theorem isSpace_plainChar {c : Char} (h : isPlainChar c = true) : isSpace c = false := by
  unfold isSpace
  rw [beq_eq_false_iff_ne.mpr (ne_of_plainChar h (by decide)),
    beq_eq_false_iff_ne.mpr (ne_of_plainChar h (by decide))]
  rfl

/-- No character of a plain scalar breaks a line. -/
theorem isBreak_plainChar {c : Char} (h : isPlainChar c = true) : isBreak c = false := by
  unfold isBreak
  simp only [beq_eq_false_iff_ne.mpr (ne_of_plainChar h (show isPlainChar '\n' = false by decide)),
    beq_eq_false_iff_ne.mpr (ne_of_plainChar h (show isPlainChar '\r' = false by decide)),
    beq_eq_false_iff_ne.mpr (ne_of_plainChar h (show isPlainChar '\x85' = false by decide)),
    beq_eq_false_iff_ne.mpr (ne_of_plainChar h (show isPlainChar '\u2028' = false by decide)),
    beq_eq_false_iff_ne.mpr (ne_of_plainChar h (show isPlainChar '\u2029' = false by decide)),
    Bool.or_false]

/-- No character of a plain scalar ends a word. -/
theorem not_endsWord_plainChar {c : Char} (h : isPlainChar c = true) (cs : List Char) :
    endsWord (c :: cs) = false := by
  show (isSpace c || isBreak c) = false
  rw [isSpace_plainChar h, isBreak_plainChar h]
  rfl

/-- A letter or a digit begins no document marker. -/
theorem not_atMarker {c : Char} (hyphen : c ≠ '-') (hdot : c ≠ '.') (cs : List Char) :
    atMarker (c :: cs) = false := by
  unfold atMarker
  split
  · rename_i heq
    exact absurd (List.cons.inj heq).1 hyphen
  · rename_i heq
    exact absurd (List.cons.inj heq).1 hdot
  · rfl

/-- No printable character breaks a line. -/
theorem isBreak_printableAscii {c : Char} (h : isPrintableAscii c = true) : isBreak c = false := by
  unfold isPrintableAscii at h
  rw [Bool.and_eq_true, decide_eq_true_eq, decide_eq_true_eq] at h
  have hne : ∀ x : Char, (x.toNat < 0x20 ∨ 0x7E < x.toNat) → (c == x) = false := by
    intro x hx
    rw [beq_eq_false_iff_ne]
    intro heq
    rw [heq] at h
    omega
  unfold isBreak
  simp only [hne '\n' (by decide), hne '\r' (by decide), hne '\x85' (by decide),
    hne '\u2028' (by decide), hne '\u2029' (by decide), Bool.or_false]

/-- The printable characters that neither separate tokens nor begin a comment. -/
def isInk (c : Char) : Bool := isPrintableAscii c && c != ' ' && c != '#'

/-- Nothing is gone past before what stands here. -/
def StartsInk (cs : List Char) : Prop := ∀ c, cs.head? = some c → isInk c = true

/-- What may stand plain may stand between quotes. -/
theorem isPrintableAscii_plainChar {c : Char} (h : isPlainChar c = true) :
    isPrintableAscii c = true := by
  unfold isPlainChar at h
  rw [Bool.or_eq_true] at h
  -- Letters and digits are three ranges of numbers; the signs are looked at one by one.
  rcases h with h | h
  · unfold isPrintableAscii
    rw [Bool.and_eq_true, decide_eq_true_eq, decide_eq_true_eq]
    have hranges : ((decide (65 ≤ c.val ∧ c.val ≤ 90) || (97 ≤ c.val && c.val ≤ 122))
        || (48 ≤ c.val && c.val ≤ 57)) = true := h
    simp only [Bool.or_eq_true, Bool.and_eq_true, decide_eq_true_eq,
      UInt32.le_iff_toNat_le] at hranges
    have hc : c.val.toNat = c.toNat := rfl
    rw [hc] at hranges
    rcases hranges with (⟨hlow, hhigh⟩ | ⟨hlow, hhigh⟩) | ⟨hlow, hhigh⟩
    · exact ⟨Nat.le_trans (by decide) hlow, Nat.le_trans hhigh (by decide)⟩
    · exact ⟨Nat.le_trans (by decide) hlow, Nat.le_trans hhigh (by decide)⟩
    · exact ⟨Nat.le_trans (by decide) hlow, Nat.le_trans hhigh (by decide)⟩
  · have hsigns : "._+/~-".toList.all isPrintableAscii = true := by decide
    exact List.all_eq_true.mp hsigns c (List.contains_iff_mem.mp h)

/-- Nothing is gone past before a plain scalar. -/
theorem isInk_plainChar {c : Char} (h : isPlainChar c = true) : isInk c = true := by
  unfold isInk
  rw [isPrintableAscii_plainChar h, bne_iff_ne.mpr (ne_of_plainChar h (by decide)),
    bne_iff_ne.mpr (ne_of_plainChar h (by decide))]
  rfl

theorem isBreak_ink {c : Char} (h : isInk c = true) : isBreak c = false := by
  unfold isInk at h
  rw [Bool.and_eq_true, Bool.and_eq_true] at h
  exact isBreak_printableAscii h.1.1

theorem isSpace_ink {c : Char} (h : isInk c = true) : isSpace c = false := by
  unfold isInk at h
  rw [Bool.and_eq_true, Bool.and_eq_true, bne_iff_ne] at h
  have htab : c ≠ '\t' := by
    intro heq
    rw [heq] at h
    exact absurd h.1.1 (by decide)
  unfold isSpace
  rw [beq_eq_false_iff_ne.mpr h.1.2, beq_eq_false_iff_ne.mpr htab]
  rfl

/-! ## §3. Plain scalars. -/

/-- The letters of a word are taken one after the other. -/
theorem readPlain_word (p : PlainPlace) (hflow : p.inFlow = false) {w : List Char}
    (hw : ∀ c ∈ w, isPlainChar c = true) (value rest : List Char) (m : Mark)
    (hm : m.column ≠ 0 ∨ ∀ cs, atMarker (w ++ cs) = false) :
    readPlain p value .none m m (w ++ rest)
      = readPlain p (w.reverse ++ value) .none (m.advance w.length) (m.advance w.length) rest := by
  induction w generalizing value m with
  | nil => rfl
  | cons c w ih =>
      have hc := hw c (List.mem_cons_self ..)
      have hmarker : (m.column == 0 && atMarker (c :: (w ++ rest))) = false := by
        rcases hm with hm | hm
        · rw [beq_eq_false_iff_ne.mpr hm, Bool.false_and]
        · rw [show c :: (w ++ rest) = (c :: w) ++ rest from rfl, hm, Bool.and_false]
      have hstep : readPlain p value .none m m (c :: (w ++ rest))
          = readPlain p (c :: value) .none (m.advance 1) (m.advance 1) (w ++ rest) := by
        conv => lhs; unfold readPlain
        rw [isSpace_plainChar hc, isBreak_plainChar hc, hmarker, hflow,
          beq_eq_false_iff_ne.mpr (ne_of_plainChar hc (show isPlainChar '#' = false by decide)),
          beq_eq_false_iff_ne.mpr (ne_of_plainChar hc (show isPlainChar ':' = false by decide))]
        rfl
      rw [List.cons_append, hstep, ih (fun x hx => hw x (List.mem_cons_of_mem _ hx)) _ _
        (.inl (by rw [Mark.column_advance]; omega)), Mark.advance_advance, List.reverse_cons,
        List.append_assoc, List.length_cons, Nat.add_comm 1]
      rfl

/-- **A plain scalar ends before a colon.** -/
theorem readPlain_colon (p : PlainPlace) (hflow : p.inFlow = false) {w rest : List Char}
    (hw : ∀ c ∈ w, isPlainChar c = true) (hrest : endsWord rest = true) (m : Mark)
    (hm : m.column ≠ 0 ∨ ∀ cs, atMarker (w ++ cs) = false) :
    readPlain p [] .none m m (w ++ ':' :: rest)
      = .ok ⟨String.ofList w, m.advance w.length, ⟨m.advance w.length, ':' :: rest⟩, false⟩ := by
  rw [readPlain_word p hflow hw [] _ m hm, List.append_nil]
  have hmarker : atMarker (':' :: rest) = false := not_atMarker (by decide) (by decide) rest
  unfold readPlain
  rw [show isSpace ':' = false from rfl, show isBreak ':' = false from rfl, hmarker, hflow, hrest,
    show (Gap.none != Gap.none) = false from rfl, show ((':' : Char) == '#') = false from rfl,
    show ((':' : Char) == ':') = true from rfl]
  simp only [Bool.false_eq_true, if_false, Bool.and_false, Bool.or_false, Bool.false_and,
    Bool.and_true, if_true]
  unfold PlainScalar.upTo
  rw [List.reverse_reverse]
  rfl

/-- After a line break blanks are gone past. -/
theorem readPlain_blanks (p : PlainPlace) (value : List Char) (stop m : Mark) (n : Nat)
    (rest : List Char) :
    readPlain p value (.breaks (some '\n') []) stop m (List.replicate n ' ' ++ rest)
      = readPlain p value (.breaks (some '\n') []) stop (m.advance n) rest := by
  induction n generalizing m with
  | zero => rfl
  | succ n ih =>
      have hstep : ∀ cs, readPlain p value (.breaks (some '\n') []) stop m (' ' :: cs)
          = readPlain p value (.breaks (some '\n') []) stop (m.advance 1) cs := by
        intro cs
        conv => lhs; unfold readPlain
        rfl
      rw [List.replicate_succ, List.cons_append, hstep, ih, Mark.advance_advance, Nat.add_comm 1]

/-- **A plain scalar ends with its line**, if the next one is not indented as
far as a line that goes on with it. -/
theorem readPlain_line (p : PlainPlace) (hflow : p.inFlow = false) {w rest : List Char} {n : Nat}
    (hw : ∀ c ∈ w, isPlainChar c = true) (hn : n < p.indent) (hrest : StartsInk rest) (m : Mark)
    (hm : m.column ≠ 0 ∨ ∀ cs, atMarker (w ++ cs) = false) :
    readPlain p [] .none m m (w ++ '\n' :: (List.replicate n ' ' ++ rest))
      = .ok ⟨String.ofList w, m.advance w.length,
          ⟨((m.advance w.length).newLine 1).advance n, rest⟩, true⟩ := by
  rw [readPlain_word p hflow hw [] _ m hm, List.append_nil]
  have hbreak : ∀ cs, readPlain p w.reverse .none (m.advance w.length) (m.advance w.length)
      ('\n' :: cs) = readPlain p w.reverse (.breaks (some '\n') []) (m.advance w.length)
        ((m.advance w.length).newLine 1) cs := by
    intro cs
    conv => lhs; unfold readPlain
    rfl
  have hend : (PlainScalar.upTo w.reverse (m.advance w.length) (.breaks (some '\n') [])
      ⟨((m.advance w.length).newLine 1).advance n, rest⟩)
      = ⟨String.ofList w, m.advance w.length,
          ⟨((m.advance w.length).newLine 1).advance n, rest⟩, true⟩ := by
    unfold PlainScalar.upTo
    rw [List.reverse_reverse]
    rfl
  rw [hbreak, readPlain_blanks, ← hend]
  -- The next line begins with ink and stands too far to the left to go on with the
  -- scalar.
  cases rest with
  | nil => rfl
  | cons c cs =>
      have hc := hrest c rfl
      have hshallow : ((((m.advance w.length).newLine 1).advance n).column < p.indent) := by
        simp only [Mark.column_advance, Mark.column_newLine, Nat.zero_add]
        exact hn
      unfold readPlain
      rw [isSpace_ink hc, isBreak_ink hc, hflow, decide_eq_true hshallow]
      rfl

/-! ## §4. Quoted scalars. -/

/-- A character between double quotes: a quote and a backslash are escaped. -/
def escaped (c : Char) : List Char := if c = '"' ∨ c = '\\' then ['\\', c] else [c]

/-- A gap of one line. -/
def Gap.OnLine : Gap → Prop
  | .breaks _ _ => False
  | _ => True

section Quoted

variable (start : Mark) (s : QuotedState) {m : Mark} (hm : m.column ≠ 0) (rest : List Char)

include hm

theorem not_marker_inside (cs : List Char) : (m.column == 0 && atMarker cs) = false := by
  rw [beq_eq_false_iff_ne.mpr hm, Bool.false_and]

/-- After a backslash the next character is taken as it is. -/
theorem readQuoted_escape {c : Char} (hc : c = '"' ∨ c = '\\') :
    readQuoted false start .text s m ('\\' :: c :: rest)
      = readQuoted false start .text ⟨c :: s.joined, .none⟩ (m.advance 2) rest := by
  have hspace : isSpace '\\' = false := by decide
  have hbreak : isBreak '\\' = false := by decide
  have hescape : readQuoted false start (.escape m) s (m.advance 1) (c :: rest)
      = readQuoted false start .text ⟨c :: s.joined, .none⟩ (m.advance 2) rest := by
    rw [← Mark.advance_advance m 1 1]
    rcases hc with rfl | rfl <;> rfl
  rw [← hescape]
  conv => lhs; unfold readQuoted
  simp only [not_marker_inside hm, hspace, hbreak, Bool.false_eq_true, if_false]
  rfl

/-- A blank waits in the gap, since a line break after it would swallow it. -/
theorem readQuoted_blank :
    readQuoted false start .text s m (' ' :: rest)
      = readQuoted false start .text { s with gap := s.gap.pushBlank ' ' } (m.advance 1) rest := by
  have hspace : isSpace ' ' = true := by decide
  conv => lhs; unfold readQuoted
  simp only [not_marker_inside hm, hspace, Bool.false_eq_true, if_false, if_true]

/-- Any other character ends the gap and is taken. -/
theorem readQuoted_ink {c : Char} (hspace : isSpace c = false) (hbreak : isBreak c = false)
    (hquote : c ≠ '"') (hslash : c ≠ '\\') :
    readQuoted false start .text s m (c :: rest)
      = readQuoted false start .text ⟨c :: s.joined, .none⟩ (m.advance 1) rest := by
  have hreturn : isReturn c rest = false := by
    have hne : c ≠ '\r' := by
      intro heq
      rw [heq] at hbreak
      exact absurd hbreak (by decide)
    unfold isReturn
    rw [beq_eq_false_iff_ne.mpr hne, Bool.false_and]
  conv => lhs; unfold readQuoted
  simp only [not_marker_inside hm, hspace, hbreak, hreturn, beq_eq_false_iff_ne.mpr hquote,
    beq_eq_false_iff_ne.mpr hslash, Bool.false_eq_true, if_false, Bool.false_and, Bool.and_false]

/-- **The closing quote ends the text**, with the blanks before it. -/
theorem readQuoted_quote :
    readQuoted false start .text s m ('"' :: rest)
      = .ok (String.ofList s.joined.reverse, ⟨m.advance 1, rest⟩) := by
  have hspace : isSpace '"' = false := by decide
  have hbreak : isBreak '"' = false := by decide
  unfold readQuoted
  simp only [not_marker_inside hm, hspace, hbreak, Bool.false_eq_true, if_false]
  rfl

end Quoted

/-- A character of a text is read from its escape. -/
theorem readQuoted_char (start : Mark) {c : Char} (hc : isPrintableAscii c = true) (s : QuotedState)
    (hs : s.gap.OnLine) {m : Mark} (hm : m.column ≠ 0) (rest : List Char) :
    ∃ s' : QuotedState, s'.gap.OnLine ∧ s'.joined = c :: s.joined
      ∧ readQuoted false start .text s m (escaped c ++ rest)
          = readQuoted false start .text s' (m.advance (escaped c).length) rest := by
  -- A quote and a backslash are escaped, a blank waits in the gap, and all else stands
  -- for itself.
  by_cases hescape : c = '"' ∨ c = '\\'
  · refine ⟨⟨c :: s.joined, .none⟩, trivial, rfl, ?_⟩
    unfold escaped
    rw [if_pos hescape]
    exact readQuoted_escape start s hm rest hescape
  · unfold escaped
    rw [if_neg hescape]
    rw [not_or] at hescape
    by_cases hspace : c = ' '
    · subst hspace
      refine ⟨{ s with gap := s.gap.pushBlank ' ' }, ?_, ?_, readQuoted_blank start s hm rest⟩
      · cases hgap : s.gap with
        | none => trivial
        | blanks cs => trivial
        | breaks f cs => rw [hgap] at hs; exact hs.elim
      · unfold QuotedState.joined
        cases hgap : s.gap with
        | none => rfl
        | blanks cs => rfl
        | breaks f cs => rw [hgap] at hs; exact hs.elim
    · have htab : c ≠ '\t' := by
        intro heq
        rw [heq] at hc
        exact absurd hc (by decide)
      have hblank : isSpace c = false := by
        unfold isSpace
        rw [beq_eq_false_iff_ne.mpr hspace, beq_eq_false_iff_ne.mpr htab]
        rfl
      exact ⟨⟨c :: s.joined, .none⟩, trivial, rfl,
        readQuoted_ink start s hm rest hblank (isBreak_printableAscii hc) hescape.1 hescape.2⟩

/-- **A quoted text is read without its escapes**, up to its closing quote. -/
theorem readQuoted_escaped (start : Mark) {cs : List Char} (hcs : ∀ c ∈ cs, isPrintableAscii c = true)
    (s : QuotedState) (hs : s.gap.OnLine) {m : Mark} (hm : m.column ≠ 0) (rest : List Char) :
    readQuoted false start .text s m (cs.flatMap escaped ++ '"' :: rest)
      = .ok (String.ofList (s.joined.reverse ++ cs),
          ⟨m.advance ((cs.flatMap escaped).length + 1), rest⟩) := by
  induction cs generalizing s m with
  | nil =>
      rw [List.flatMap_nil, List.nil_append, List.append_nil, readQuoted_quote start s hm rest]
      rfl
  | cons c cs ih =>
      obtain ⟨s', hs', hjoined, hstep⟩ := readQuoted_char start (hcs c (List.mem_cons_self ..)) s hs
        hm (cs.flatMap escaped ++ '"' :: rest)
      have hm' : (m.advance (escaped c).length).column ≠ 0 := by
        rw [Mark.column_advance]
        omega
      rw [List.flatMap_cons, List.append_assoc, hstep,
        ih (fun x hx => hcs x (List.mem_cons_of_mem _ hx)) s' hs' hm', hjoined,
        Mark.advance_advance, List.length_append, List.reverse_cons, List.append_assoc,
        Nat.add_assoc]
      rfl

/-! ## §5. Between tokens. -/

/-- At a token nothing is gone past. -/
theorem skipToToken_ink {rest : List Char} (hrest : StartsInk rest) (inFlow keyAllowed : Bool)
    (m : Mark) : skipToToken inFlow keyAllowed false m rest = (keyAllowed, ⟨m, rest⟩) := by
  cases rest with
  | nil => rfl
  | cons c cs =>
      have hc := hrest c rfl
      have hne : ∀ x, isInk x = false → (c == x) = false := by
        intro x hx
        rw [beq_eq_false_iff_ne]
        intro heq
        rw [heq, hx] at hc
        cases hc
      unfold skipToToken
      rw [hne '\uFEFF' (by decide), hne ' ' (by decide), hne '\t' (by decide), hne '#' (by decide),
        isBreak_ink hc, Bool.and_false, Bool.false_and]
      rfl

/-- Blanks are gone past. -/
theorem skipToToken_blanks (keyAllowed : Bool) (m : Mark) (n : Nat) (rest : List Char) :
    skipToToken false keyAllowed false m (List.replicate n ' ' ++ rest)
      = skipToToken false keyAllowed false (m.advance n) rest := by
  induction n generalizing m with
  | zero => rfl
  | succ n ih =>
      have hstep : ∀ cs, skipToToken false keyAllowed false m (' ' :: cs)
          = skipToToken false keyAllowed false (m.advance 1) cs := by
        intro cs
        conv => lhs; unfold skipToToken
        rw [show ((' ' : Char) == '\uFEFF') = false from rfl, Bool.and_false]
        rfl
      rw [List.replicate_succ, List.cons_append, hstep, ih, Mark.advance_advance, Nat.add_comm 1]

/-- **Between two lines only the indentation is gone past**, and after it a
key may begin. -/
theorem skipToToken_line (keyAllowed : Bool) (m : Mark) (n : Nat) {rest : List Char}
    (hrest : StartsInk rest) :
    skipToToken false keyAllowed false m ('\n' :: (List.replicate n ' ' ++ rest))
      = (true, ⟨(m.newLine 1).advance n, rest⟩) := by
  have hbreak : ∀ cs, skipToToken false keyAllowed false m ('\n' :: cs)
      = skipToToken false true false (m.newLine 1) cs := by
    intro cs
    conv => lhs; unfold skipToToken
    rw [show (('\n' : Char) == '\uFEFF') = false from rfl, Bool.and_false]
    cases keyAllowed <;> rfl
  rw [hbreak, skipToToken_blanks, skipToToken_ink hrest]

end Provision.Yaml
