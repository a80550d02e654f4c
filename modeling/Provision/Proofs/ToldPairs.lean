/-
  Provision.Proofs.ToldPairs
  ──────────────────────────
  **PAIRS ARE TOLD ONE AFTER THE OTHER.**

  The events of a mapping are told pair by pair: each step looks at the next
  tokens and goes to the place after them, where something else is expected.
  Marks play no part in this.

  Main results:

    `Tells.trans`       what is told on the way from place to place
    `tells_pair`        a pair is told
    `tells_pairs`       a document with a mapping is told
-/
import Provision.Proofs.MappingLines
import Provision.Yaml.Document

namespace Provision.Yaml

/-! ## §1. Events of pairs. -/

/-- The event of a scalar. -/
def Scalar.event (v : Scalar) : Event := .scalar {} v.text v.style

/-- The events of a value. -/
def Value.events : Value → List Event
  | .scalar v => [v.event]
  | .items _ vs => .sequenceStart {} :: (vs.map Scalar.event ++ [.sequenceEnd])
  | .parts _ ps =>
      .mappingStart {}
        :: (ps.flatMap (fun p => [(Scalar.plain p.1).event, p.2.event]) ++ [.mappingEnd])

/-- The events of a pair. -/
def Pair.events (p : Pair) : List Event := (Scalar.plain p.key).event :: p.value.events

/-- The events of a mapping with these pairs. -/
def mappingEvents (ps : List Pair) : List Event :=
  .mappingStart {} :: (ps.flatMap Pair.events ++ [.mappingEnd])

namespace Teller

/-! ## §2. From place to place. -/

/-- What stands next, and what is expected. -/
structure Place where
  tokens : List Token
  expected : Expected
  later : List Expected

/-- The teller is at a place. -/
structure At (s : Teller) (p : Place) : Prop where
  tokens : s.tokens.map Located.value = p.tokens
  expected : s.expected = p.expected
  later : s.later = p.later

/-- On the way from `p` to `q` the events `E` are told. -/
def Tells (p : Place) (E : List Event) (q : Place) : Prop :=
  ∀ s : Teller, s.At p → ∃ s' : Teller, ∃ es, s'.At q ∧ es.map Prod.fst = E
    ∧ ∀ n, tellAll (n + E.length) s = (es ++ (tellAll n s').1, (tellAll n s').2)

/-- **What is told on the way from place to place** is told on the whole way. -/
theorem Tells.trans {p q r : Place} {E F : List Event} (h : Tells p E q) (h' : Tells q F r) :
    Tells p (E ++ F) r := by
  intro s hs
  obtain ⟨t, es, ht, rfl, hrun⟩ := h s hs
  obtain ⟨u, fs, hu, rfl, hrun'⟩ := h' t ht
  refine ⟨u, es ++ fs, hu, List.map_append, fun n => ?_⟩
  rw [List.length_append, Nat.add_comm (es.map _).length, ← Nat.add_assoc, hrun, hrun',
    List.append_assoc]

/-- Does the event end the document or the text? -/
def endsAll : Event → Bool
  | .streamEnd => true
  | .documentEnd => true
  | _ => false

/-- One step tells one event. -/
theorem tells_step {p q : Place} {e : Event} (he : endsAll e = false)
    (h : ∀ s : Teller, s.At p → ∃ s' m, s.step = .ok ((e, m), s') ∧ s'.At q) : Tells p [e] q := by
  intro s hs
  obtain ⟨s', m, hstep, hs'⟩ := h s hs
  refine ⟨s', [(e, m)], hs', rfl, fun n => ?_⟩
  show tellAll (n + 1) s = _
  conv => lhs; unfold tellAll
  rw [hstep]
  cases e with
  | streamEnd => cases he
  | documentEnd => cases he
  | _ => rfl

/-- What is known about a state with a next token. -/
theorem At.eq_cons {s : Teller} {t : Token} {ts : List Token} {x : Expected} {later : List Expected}
    (h : s.At ⟨t :: ts, x, later⟩) :
    ∃ m m' rest fault openings handles,
      s = ⟨⟨t, m, m'⟩ :: rest, fault, x, later, openings, handles⟩ ∧ rest.map Located.value = ts := by
  obtain ⟨tokens, fault, expected, rest, openings, handles⟩ := s
  obtain ⟨htokens, hexpected, hlater⟩ := h
  cases tokens with
  | nil => cases htokens
  | cons u us =>
      obtain ⟨x, m, m'⟩ := u
      obtain ⟨rfl, hus⟩ := List.cons.inj htokens
      cases hexpected
      cases hlater
      exact ⟨m, m', us, fault, openings, handles, rfl, hus⟩

/-- A list of located tokens begins where their values do. -/
theorem exists_cons {us : List (Located Token)} {t : Token} {ts : List Token}
    (h : us.map Located.value = t :: ts) :
    ∃ m m' rest, us = ⟨t, m, m'⟩ :: rest ∧ rest.map Located.value = ts := by
  cases us with
  | nil => cases h
  | cons u us =>
      obtain ⟨x, m, m'⟩ := u
      obtain ⟨rfl, hus⟩ := List.cons.inj h
      exact ⟨m, m', us, rfl, hus⟩

/-- What is known about a state with two next tokens. -/
theorem At.eq_cons_cons {s : Teller} {t u : Token} {ts : List Token} {x : Expected}
    {later : List Expected} (h : s.At ⟨t :: u :: ts, x, later⟩) :
    ∃ m m' k k' rest fault openings handles,
      s = ⟨⟨t, m, m'⟩ :: ⟨u, k, k'⟩ :: rest, fault, x, later, openings, handles⟩
        ∧ rest.map Located.value = ts := by
  obtain ⟨m, m', us, fault, openings, handles, rfl, hus⟩ := h.eq_cons
  obtain ⟨k, k', us', rfl, hus'⟩ := exists_cons hus
  exact ⟨m, m', k, k', us', fault, openings, handles, rfl, hus'⟩

/-! ## §3. Steps. -/

/-- The tokens that may follow a value. -/
def Follows (t : Token) : Prop := t = .key ∨ t = .blockEnd

section Steps

variable (v : Scalar) (ts : List Token) (later : List Expected)

/-- The token that begins a collection, before its first item. -/
def opening (first : Bool) (t : Token) : List Token := if first then [t] else []

/-- A key is told, and its value is expected. -/
theorem tells_key (first : Bool) :
    Tells ⟨opening first .blockMappingStart ++ .key :: v.token :: ts, .blockKey first, later⟩
      [v.event] ⟨ts, .blockValue, later⟩ := by
  refine tells_step rfl fun s hs => ?_
  cases first with
  | false =>
      obtain ⟨m, m', k, k', us, fault, openings, handles, rfl, hus⟩ := hs.eq_cons_cons
      exact ⟨_, _, rfl, hus, rfl, rfl⟩
  | true =>
      obtain ⟨m, m', k, k', us, fault, openings, handles, rfl, hus⟩ := hs.eq_cons_cons
      obtain ⟨l, l', us', rfl, hus'⟩ := exists_cons hus
      exact ⟨_, _, rfl, hus', rfl, rfl⟩

/-- A scalar is told as the value, and another key is expected. -/
theorem tells_value :
    Tells ⟨.value :: v.token :: ts, .blockValue, later⟩ [v.event] ⟨ts, .blockKey false, later⟩ := by
  refine tells_step rfl fun s hs => ?_
  obtain ⟨m, m', k, k', us, fault, openings, handles, rfl, hus⟩ := hs.eq_cons_cons
  exact ⟨_, _, rfl, hus, rfl, rfl⟩

/-- A collection begins; its first token is gone past with its first item. -/
theorem tells_mappingStart :
    Tells ⟨.value :: .blockMappingStart :: ts, .blockValue, later⟩ [.mappingStart {}]
      ⟨.blockMappingStart :: ts, .blockKey true, .blockKey false :: later⟩ := by
  refine tells_step rfl fun s hs => ?_
  obtain ⟨m, m', k, k', us, fault, openings, handles, rfl, hus⟩ := hs.eq_cons_cons
  exact ⟨_, _, rfl, congrArg (_ :: ·) hus, rfl, rfl⟩

/-- At the end of its block a mapping ends. -/
theorem tells_mappingEnd (x : Expected) :
    Tells ⟨.blockEnd :: ts, .blockKey false, x :: later⟩ [.mappingEnd] ⟨ts, x, later⟩ := by
  refine tells_step rfl fun s hs => ?_
  obtain ⟨m, m', us, fault, openings, handles, rfl, hus⟩ := hs.eq_cons
  exact ⟨_, _, rfl, hus, rfl, rfl⟩

/-- A block of items begins a sequence. -/
theorem tells_sequenceStart :
    Tells ⟨.value :: .blockSequenceStart :: ts, .blockValue, later⟩ [.sequenceStart {}]
      ⟨.blockSequenceStart :: ts, .blockEntry true, .blockKey false :: later⟩ := by
  refine tells_step rfl fun s hs => ?_
  obtain ⟨m, m', k, k', us, fault, openings, handles, rfl, hus⟩ := hs.eq_cons_cons
  exact ⟨_, _, rfl, congrArg (_ :: ·) hus, rfl, rfl⟩

/-- An item of a block is told, the first one with the beginning of the block. -/
theorem tells_item (first : Bool) :
    Tells ⟨opening first .blockSequenceStart ++ .blockEntry :: v.token :: ts, .blockEntry first,
      later⟩ [v.event] ⟨ts, .blockEntry false, later⟩ := by
  refine tells_step rfl fun s hs => ?_
  cases first with
  | false =>
      obtain ⟨m, m', k, k', us, fault, openings, handles, rfl, hus⟩ := hs.eq_cons_cons
      exact ⟨_, _, rfl, hus, rfl, rfl⟩
  | true =>
      obtain ⟨m, m', k, k', us, fault, openings, handles, rfl, hus⟩ := hs.eq_cons_cons
      obtain ⟨l, l', us', rfl, hus'⟩ := exists_cons hus
      exact ⟨_, _, rfl, hus', rfl, rfl⟩

/-- At the end of its block a sequence ends. -/
theorem tells_sequenceEnd (x : Expected) :
    Tells ⟨.blockEnd :: ts, .blockEntry false, x :: later⟩ [.sequenceEnd] ⟨ts, x, later⟩ := by
  refine tells_step rfl fun s hs => ?_
  obtain ⟨m, m', us, fault, openings, handles, rfl, hus⟩ := hs.eq_cons
  exact ⟨_, _, rfl, hus, rfl, rfl⟩

/-- A sequence at the column of its key has no token of its own. -/
theorem tells_indentlessStart :
    Tells ⟨.value :: .blockEntry :: ts, .blockValue, later⟩ [.sequenceStart {}]
      ⟨.blockEntry :: ts, .indentlessEntry, .blockKey false :: later⟩ := by
  refine tells_step rfl fun s hs => ?_
  obtain ⟨m, m', k, k', us, fault, openings, handles, rfl, hus⟩ := hs.eq_cons_cons
  exact ⟨_, _, rfl, congrArg (_ :: ·) hus, rfl, rfl⟩

/-- An item at the column of its key is told without a block. -/
theorem tells_indentlessItem :
    Tells ⟨.blockEntry :: v.token :: ts, .indentlessEntry, later⟩ [v.event]
      ⟨ts, .indentlessEntry, later⟩ := by
  refine tells_step rfl fun s hs => ?_
  obtain ⟨m, m', k, k', us, fault, openings, handles, rfl, hus⟩ := hs.eq_cons_cons
  exact ⟨_, _, rfl, hus, rfl, rfl⟩

/-- A sequence without a block ends before whatever is no item. -/
theorem tells_indentlessEnd {t : Token} (ht : Follows t) (x : Expected) :
    Tells ⟨t :: ts, .indentlessEntry, x :: later⟩ [.sequenceEnd] ⟨t :: ts, x, later⟩ := by
  refine tells_step rfl fun s hs => ?_
  obtain ⟨m, m', us, fault, openings, handles, rfl, hus⟩ := hs.eq_cons
  have hmap : (⟨t, m, m'⟩ :: us : List (Located Token)).map Located.value = t :: ts := by
    rw [List.map_cons, hus]
  rcases ht with rfl | rfl
  · exact ⟨_, _, rfl, hmap, rfl, rfl⟩
  · exact ⟨_, _, rfl, hmap, rfl, rfl⟩

/-- An empty pair of brackets. -/
theorem tells_brackets :
    Tells ⟨.value :: .flowSequenceStart :: .flowSequenceEnd :: ts, .blockValue, later⟩
      [.sequenceStart {}, .sequenceEnd] ⟨ts, .blockKey false, later⟩ := by
  have hstart : Tells ⟨.value :: .flowSequenceStart :: .flowSequenceEnd :: ts, .blockValue, later⟩
      [.sequenceStart {}] ⟨.flowSequenceStart :: .flowSequenceEnd :: ts, .flowEntry true,
        .blockKey false :: later⟩ := by
    refine tells_step rfl fun s hs => ?_
    obtain ⟨m, m', k, k', us, fault, openings, handles, rfl, hus⟩ := hs.eq_cons_cons
    exact ⟨_, _, rfl, congrArg (_ :: ·) hus, rfl, rfl⟩
  have hend : Tells ⟨.flowSequenceStart :: .flowSequenceEnd :: ts, .flowEntry true,
      .blockKey false :: later⟩ [.sequenceEnd] ⟨ts, .blockKey false, later⟩ := by
    refine tells_step rfl fun s hs => ?_
    obtain ⟨m, m', k, k', us, fault, openings, handles, rfl, hus⟩ := hs.eq_cons_cons
    exact ⟨_, _, rfl, hus, rfl, rfl⟩
  exact hstart.trans hend

end Steps

/-! ## §4. Collections. -/

/-- The place before a key of a mapping, or before its end. -/
def atKey (ts : List Token) (first : Bool) (later : List Expected) : Place :=
  ⟨opening first .blockMappingStart ++ ts, .blockKey first, later⟩

/-- Keys with their values are told one after the other, if each is. -/
theorem tells_each {α : Type} {tokens : α → List Token} {events : α → List Event} {as : List α}
    (hkey : ∀ a, ∃ us, tokens a = .key :: us)
    (h : ∀ a ∈ as, ∀ t, Follows t → ∀ ts first later,
      Tells (atKey (tokens a ++ t :: ts) first later) (events a) (atKey (t :: ts) false later))
    (hne : as ≠ []) (ts : List Token) (first : Bool) (x : Expected) (later : List Expected) :
    Tells (atKey (as.flatMap tokens ++ .blockEnd :: ts) first (x :: later))
      (as.flatMap events ++ [.mappingEnd]) ⟨ts, x, later⟩ := by
  -- Only before the first key the token of the mapping itself is left.
  have hfrom : ∀ a as', (∀ b ∈ a :: as', b ∈ as) → ∀ first,
      Tells (atKey ((a :: as').flatMap tokens ++ .blockEnd :: ts) first (x :: later))
        ((a :: as').flatMap events ++ [.mappingEnd]) ⟨ts, x, later⟩ := by
    intro a as' hmem first
    induction as' generalizing a first with
    | nil =>
        rw [List.flatMap_cons, List.flatMap_cons, List.append_assoc, List.append_assoc]
        exact (h a (hmem a (List.mem_cons_self ..)) _ (.inr rfl) _ first _).trans
          (tells_mappingEnd ts later x)
    | cons b as' ih =>
        have hrest := ih b (fun c hc => hmem c (List.mem_cons_of_mem _ hc)) false
        obtain ⟨us, hus⟩ := hkey b
        rw [List.flatMap_cons, List.flatMap_cons, List.append_assoc, List.append_assoc]
        rw [List.flatMap_cons, hus, List.append_assoc, List.cons_append] at hrest ⊢
        exact (h a (hmem a (List.mem_cons_self ..)) _ (.inl rfl) _ first _).trans hrest
  cases as with
  | nil => exact absurd rfl hne
  | cons a as => exact hfrom a as (fun b hb => hb) first

/-- The items of a sequence that is indented further than its key. -/
theorem tells_items {vs : List Scalar} (hne : vs ≠ []) (ts : List Token) (x : Expected)
    (later : List Expected) :
    Tells ⟨.blockSequenceStart :: (vs.flatMap (fun v => [.blockEntry, v.token]) ++ .blockEnd :: ts),
        .blockEntry true, x :: later⟩
      (vs.map Scalar.event ++ [.sequenceEnd]) ⟨ts, x, later⟩ := by
  have hrest : ∀ vs : List Scalar,
      Tells ⟨vs.flatMap (fun v => [.blockEntry, v.token]) ++ .blockEnd :: ts, .blockEntry false,
        x :: later⟩ (vs.map Scalar.event ++ [.sequenceEnd]) ⟨ts, x, later⟩ := by
    intro vs
    induction vs with
    | nil => exact tells_sequenceEnd ts later x
    | cons v vs ih => exact (tells_item v _ _ false).trans ih
  cases vs with
  | nil => exact absurd rfl hne
  | cons v vs => exact (tells_item v _ _ true).trans (hrest vs)

/-- The items of a sequence at the column of its key. -/
theorem tells_indentlessItems (vs : List Scalar) {t : Token} (ht : Follows t)
    (ts : List Token) (x : Expected) (later : List Expected) :
    Tells ⟨vs.flatMap (fun v => [.blockEntry, v.token]) ++ t :: ts, .indentlessEntry, x :: later⟩
      (vs.map Scalar.event ++ [.sequenceEnd]) ⟨t :: ts, x, later⟩ := by
  induction vs with
  | nil => exact tells_indentlessEnd ts later ht x
  | cons v vs ih => exact (tells_indentlessItem v _ _).trans ih

/-- A key with a scalar is told. -/
theorem tells_part (p : List Char × Scalar) (ts : List Token) (first : Bool)
    (later : List Expected) :
    Tells (atKey (Content.keyTokens p.1 ++ [p.2.token] ++ ts) first later)
      [(Scalar.plain p.1).event, p.2.event] (atKey ts false later) :=
  (tells_key (.plain p.1) _ later first).trans (tells_value p.2 ts later)

/-- **A pair is told**; what follows is a key or the end of the mapping. -/
theorem tells_pair {p : Pair} (h : p.Legible) {t : Token} (ht : Follows t)
    (ts : List Token) (first : Bool) (later : List Expected) :
    Tells (atKey (p.tokens ++ t :: ts) first later) p.events (atKey (t :: ts) false later) := by
  obtain ⟨key, value⟩ := p
  have hkey : ∀ us, Tells (atKey (Content.keyTokens key ++ us) first later)
      [(Scalar.plain key).event] ⟨.value :: us, .blockValue, later⟩ :=
    fun us => tells_key (.plain key) (.value :: us) later first
  unfold Pair.tokens
  rw [List.append_assoc]
  refine (hkey _).trans ?_
  cases value with
  | scalar v => exact tells_value v _ later
  | items column vs =>
      cases vs with
      | nil => exact tells_brackets _ later
      | cons v vs =>
          show Tells ⟨.value :: ((if column = 0 then _ else _) ++ t :: ts), .blockValue, later⟩ _ _
          split
          · exact (tells_indentlessStart _ later).trans
              (tells_indentlessItems (v :: vs) ht ts (.blockKey false) later)
          · have hitems := tells_items (List.cons_ne_nil v vs) (t :: ts) (.blockKey false) later
            rw [List.cons_append, List.append_assoc]
            exact (tells_sequenceStart _ later).trans hitems
  | parts column ps =>
      have hparts := tells_each (fun _ => ⟨_, rfl⟩) (fun p _ u _ us => tells_part p (u :: us))
        h.2.2.1 (t :: ts) true (.blockKey false) later
      show Tells ⟨.value :: .blockMappingStart :: (_ ++ [.blockEnd] ++ t :: ts), .blockValue, later⟩ _ _
      rw [List.append_assoc]
      exact (tells_mappingStart _ later).trans hparts

/-! ## §5. Documents. -/

/-- A text that begins with a block of keys begins a document with a mapping. -/
theorem tells_documentStart (ts : List Token) :
    Tells ⟨.blockMappingStart :: ts, .document true, []⟩ [.documentStart, .mappingStart {}]
      (atKey ts true [.documentEnd]) := by
  have hdocument : Tells ⟨.blockMappingStart :: ts, .document true, []⟩ [.documentStart]
      ⟨.blockMappingStart :: ts, .blockNode, [.documentEnd]⟩ := by
    refine tells_step rfl fun s hs => ?_
    obtain ⟨m, m', us, fault, openings, handles, rfl, hus⟩ := hs.eq_cons
    exact ⟨_, _, rfl, hs.tokens, rfl, rfl⟩
  have hmapping : Tells ⟨.blockMappingStart :: ts, .blockNode, [.documentEnd]⟩ [.mappingStart {}]
      (atKey ts true [.documentEnd]) := by
    refine tells_step rfl fun s hs => ?_
    obtain ⟨m, m', us, fault, openings, handles, rfl, hus⟩ := hs.eq_cons
    exact ⟨_, _, rfl, hs.tokens, rfl, rfl⟩
  exact hdocument.trans hmapping

theorem tells_pairs {ps : List Pair} (h : ∀ p ∈ ps, p.Legible) (hne : ps ≠ []) :
    Tells ⟨.blockMappingStart :: (ps.flatMap Pair.tokens ++ [.blockEnd, .streamEnd]),
        .document true, []⟩
      (.documentStart :: mappingEvents ps) ⟨[.streamEnd], .documentEnd, []⟩ :=
  (tells_documentStart _).trans
    (tells_each (fun _ => ⟨_, rfl⟩) (fun p hp _ ht => tells_pair (h p hp) ht) hne [.streamEnd] true
      .documentEnd [])

/-- At the end of the text a document ends, and nothing follows it. -/
theorem tellAll_documentEnd {s : Teller} (h : s.At ⟨[.streamEnd], .documentEnd, []⟩) (n : Nat) :
    ∃ m s', tellAll (n + 1) s = ([(.documentEnd, m)], .ok s') ∧ Document.isFollowed s' = false := by
  obtain ⟨m, m', us, fault, openings, handles, rfl, -⟩ := h.eq_cons
  exact ⟨_, _, rfl, rfl⟩

end Teller

end Provision.Yaml
