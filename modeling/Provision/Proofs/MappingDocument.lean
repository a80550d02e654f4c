/-
  Provision.Proofs.MappingDocument
  ────────────────────────────────
  **THE DOCUMENT OF A MAPPING.**

  The events that are told of a mapping name no anchor, so that they are
  entered into the document as their nodes.  The document of the lines of a
  mapping holds the nodes of its pairs, and nothing is wrong with it.

  Main results:

    `enter_nameless`    events without names are entered as their nodes
    `parsesAs_tokens`   the document of a text with the tokens of a mapping
    `document_pairs`    the document of the lines of a mapping
-/
import Provision.Proofs.ToldPairs

namespace Provision.Yaml

/-! ## §1. Nodes. -/

/-- The node of an event, if it is one. -/
def Event.node? : Event → Option NodeEvent
  | .scalar p text style => some (.scalar p.tag text style)
  | .sequenceStart _ => some .sequenceStart
  | .sequenceEnd => some .sequenceEnd
  | .mappingStart _ => some .mappingStart
  | .mappingEnd => some .mappingEnd
  | _ => none

/-- Does the event name no anchor and end no text? -/
def Event.isNameless : Event → Bool
  | .scalar p _ _ => p.anchor.isNone
  | .sequenceStart p => p.anchor.isNone
  | .mappingStart p => p.anchor.isNone
  | .alias _ => false
  | .streamEnd => false
  | _ => true

/-- Events without names are entered as their nodes. -/
theorem enter_nameless {es : List (Event × Mark)} (h : ∀ e ∈ es, e.1.isNameless = true)
    (d : Document.Draft) :
    Document.enter d es = .ok { d with
      events := (es.filterMap fun e => e.1.node?.map (·, e.2)).reverse ++ d.events } := by
  -- On the events, along the draft: each is added to it or, as a bracket of the
  -- document, passed over.
  induction es generalizing d with
  | nil => rfl
  | cons e es ih =>
      obtain ⟨e, m⟩ := e
      have he := h _ (List.mem_cons_self ..)
      have hrest := ih fun e' he' => h e' (List.mem_cons_of_mem _ he')
      have hname : ∀ a : Option String, a.isNone = true → d.name a = d := by
        intro a ha
        rw [Option.isNone_iff_eq_none.mp ha]
        rfl
      have hadd : ∀ n : NodeEvent, e.node? = some n →
          Document.enter (d.add n m) es = .ok { d with
            events := (((e, m) :: es).filterMap fun e => e.1.node?.map (·, e.2)).reverse
              ++ d.events } := by
        intro n hn
        rw [hrest, List.filterMap_cons, hn]
        show Except.ok { d with events := _ ++ (n, m) :: d.events } = _
        rw [Option.map_some, List.reverse_cons, List.append_assoc]
        rfl
      unfold Document.enter
      cases e with
      | «alias» name => cases he
      | streamEnd => cases he
      | scalar p text style =>
          show Document.enter ((d.name p.anchor).add _ m) es = _
          rw [hname _ he]
          exact hadd _ rfl
      | sequenceStart p =>
          show Document.enter ((d.name p.anchor).add _ m) es = _
          rw [hname _ he]
          exact hadd _ rfl
      | mappingStart p =>
          show Document.enter ((d.name p.anchor).add _ m) es = _
          rw [hname _ he]
          exact hadd _ rfl
      | sequenceEnd => exact hadd _ rfl
      | mappingEnd => exact hadd _ rfl
      | documentStart => exact hrest d
      | documentEnd => exact hrest d

/-- The node of a scalar. -/
def Scalar.node (v : Scalar) : NodeEvent := .scalar none v.text v.style

/-- The nodes of a value. -/
def Value.nodes : Value → List NodeEvent
  | .scalar v => [v.node]
  | .items _ vs => .sequenceStart :: (vs.map Scalar.node ++ [.sequenceEnd])
  | .parts _ ps =>
      .mappingStart :: (ps.flatMap (fun p => [(Scalar.plain p.1).node, p.2.node]) ++ [.mappingEnd])

/-- The nodes of a pair. -/
def Pair.nodes (p : Pair) : List NodeEvent := (Scalar.plain p.key).node :: p.value.nodes

/-- The nodes of a mapping with these pairs. -/
def mappingNodes (ps : List Pair) : List NodeEvent :=
  .mappingStart :: (ps.flatMap Pair.nodes ++ [.mappingEnd])

/-- The nodes of items are the items. -/
theorem node?_scalars (vs : List Scalar) :
    (vs.map Scalar.event).filterMap Event.node? = vs.map Scalar.node := by
  rw [List.filterMap_map, show Event.node? ∘ Scalar.event = some ∘ Scalar.node from rfl,
    List.filterMap_eq_map]

/-- Nodes are taken event by event, so a list of parts has the nodes of its
parts. -/
theorem node?_each {α : Type} {events : α → List Event} {nodes : α → List NodeEvent}
    (h : ∀ a, (events a).filterMap Event.node? = nodes a) (as : List α) :
    (as.flatMap events).filterMap Event.node? = as.flatMap nodes := by
  rw [List.filterMap_flatMap]
  simp only [h]

/-- The events of a pair have the nodes of the pair. -/
theorem node?_pair (p : Pair) : p.events.filterMap Event.node? = p.nodes := by
  obtain ⟨key, value⟩ := p
  cases value with
  | scalar v => rfl
  | items column vs =>
      show (_ :: _ :: (vs.map Scalar.event ++ [Event.sequenceEnd])).filterMap Event.node? = _
      rw [List.filterMap_cons, List.filterMap_cons, List.filterMap_append, node?_scalars]
      rfl
  | parts column ps =>
      show (_ :: _ :: (ps.flatMap _ ++ [Event.mappingEnd])).filterMap Event.node? = _
      rw [List.filterMap_cons, List.filterMap_cons, List.filterMap_append, node?_each fun _ => rfl]
      rfl

/-- The events of a mapping have the nodes of the mapping. -/
theorem node?_mapping (ps : List Pair) :
    (mappingEvents ps).filterMap Event.node? = mappingNodes ps := by
  show (_ :: (ps.flatMap Pair.events ++ [Event.mappingEnd])).filterMap Event.node? = _
  rw [List.filterMap_cons, List.filterMap_append, node?_each node?_pair]
  rfl

/-- A value that is written names no anchor and refers to none. -/
theorem nameless_value (v : Value) : ∀ e ∈ v.events, e.isNameless = true := by
  intro e he
  cases v with
  | scalar v =>
      rw [List.mem_singleton.mp he]
      rfl
  | items column vs =>
      rcases List.mem_cons.mp he with rfl | he
      · rfl
      rcases List.mem_append.mp he with he | he
      · obtain ⟨v, -, rfl⟩ := List.mem_map.mp he
        rfl
      · rw [List.mem_singleton.mp he]
        rfl
  | parts column ps =>
      rcases List.mem_cons.mp he with rfl | he
      · rfl
      rcases List.mem_append.mp he with he | he
      · obtain ⟨p, -, he⟩ := List.mem_flatMap.mp he
        rcases List.mem_cons.mp he with rfl | he
        · rfl
        · rw [List.mem_singleton.mp he]
          rfl
      · rw [List.mem_singleton.mp he]
        rfl

/-- **No event of a mapping names an anchor**, so that none has to be looked up. -/
theorem nameless_mapping (ps : List Pair) : ∀ e ∈ mappingEvents ps, e.isNameless = true := by
  intro e he
  rcases List.mem_cons.mp he with rfl | he
  · rfl
  rcases List.mem_append.mp he with he | he
  · obtain ⟨p, -, he⟩ := List.mem_flatMap.mp he
    rcases List.mem_cons.mp he with rfl | he
    · rfl
    · exact nameless_value p.value e he
  · rw [List.mem_singleton.mp he]
    rfl

/-! ## §2. Tokens and events. -/

/-- Lists made from shorter parts are shorter. -/
theorem length_flatMap_le {α β γ : Type} {f : α → List β} {g : α → List γ}
    (h : ∀ a, (f a).length ≤ (g a).length) (as : List α) :
    (as.flatMap f).length ≤ (as.flatMap g).length := by
  induction as with
  | nil => exact Nat.le_refl 0
  | cons a as ih =>
      rw [List.flatMap_cons, List.flatMap_cons, List.length_append, List.length_append]
      exact Nat.add_le_add (h a) ih

theorem length_event_items (vs : List Scalar) :
    (vs.map Scalar.event).length
      ≤ (vs.flatMap fun v => [Token.blockEntry, v.token]).length := by
  rw [List.map_eq_flatMap]
  exact length_flatMap_le (f := fun v : Scalar => [v.event])
    (g := fun v => [Token.blockEntry, v.token]) (fun _ => Nat.le_succ 1) vs

/-- No more events than tokens. -/
theorem length_events_le (p : Pair) : p.events.length ≤ p.tokens.length := by
  have htokens : p.tokens.length = 3 + p.value.tokens.length := List.length_append
  have hevents : p.events.length = p.value.events.length + 1 := rfl
  rw [htokens, hevents]
  cases p.value with
  | scalar v => exact Nat.le_add_left 2 2
  | items column vs =>
      have hitems := length_event_items vs
      have hlength : (Value.items column vs).events.length = (vs.map Scalar.event).length + 2 := by
        show (_ ++ [_]).length + 1 = _
        rw [List.length_append]
        rfl
      cases vs with
      | nil => exact Nat.le_add_left 3 2
      | cons v vs =>
          rw [hlength]
          show _ ≤ 3 + List.length (if column = 0 then _ else _)
          split
          · omega
          · simp only [List.length_cons, List.length_append] at hitems ⊢
            omega
  | parts column ps =>
      have hparts := length_flatMap_le
        (f := fun p : List Char × Scalar => [(Scalar.plain p.1).event, p.2.event])
        (g := fun p => Content.keyTokens p.1 ++ [p.2.token]) (fun _ => Nat.le_add_left 2 2) ps
      unfold Value.events Value.tokens
      simp only [List.length_cons, List.length_append, List.length_nil]
      omega

/-- No token of a key begins the text. -/
theorem not_start_key (key : List Char) : ∀ t ∈ Content.keyTokens key, t ≠ .streamStart :=
  List.forall_mem_cons.mpr ⟨nofun, List.forall_mem_cons.mpr ⟨nofun, List.forall_mem_singleton.mpr nofun⟩⟩

/-- No token of an item begins the text. -/
theorem not_start_items (vs : List Scalar) :
    ∀ t ∈ vs.flatMap (fun v => [Token.blockEntry, v.token]), t ≠ .streamStart := by
  intro t ht
  obtain ⟨v, -, ht⟩ := List.mem_flatMap.mp ht
  rcases List.mem_cons.mp ht with rfl | ht
  · nofun
  · rw [List.mem_singleton.mp ht]
    nofun

/-- No token of a part begins the text. -/
theorem not_start_parts (ps : List (List Char × Scalar)) :
    ∀ t ∈ ps.flatMap (fun p => Content.keyTokens p.1 ++ [p.2.token]), t ≠ .streamStart := by
  intro t ht
  obtain ⟨p, -, ht⟩ := List.mem_flatMap.mp ht
  rcases List.mem_append.mp ht with ht | ht
  · exact not_start_key p.1 t ht
  · rw [List.mem_singleton.mp ht]
    nofun

/-- No token of a value begins the text, however its lines are indented. -/
theorem not_start_value (v : Value) : ∀ t ∈ v.tokens, t ≠ .streamStart := by
  -- Tokens between those of a block.
  have hblock : ∀ (start : Token) (ts : List Token), start ≠ .streamStart →
      (∀ t ∈ ts, t ≠ .streamStart) → ∀ t ∈ start :: (ts ++ [.blockEnd]), t ≠ .streamStart :=
    fun start ts hstart hts => List.forall_mem_cons.mpr
      ⟨hstart, List.forall_mem_append.mpr ⟨hts, List.forall_mem_singleton.mpr nofun⟩⟩
  cases v with
  | scalar v => exact List.forall_mem_singleton.mpr nofun
  | items column vs =>
      cases vs with
      | nil => exact List.forall_mem_cons.mpr ⟨nofun, List.forall_mem_singleton.mpr nofun⟩
      | cons v vs =>
          unfold Value.tokens
          dsimp only
          split
          · exact not_start_items (v :: vs)
          · exact hblock .blockSequenceStart _ nofun (not_start_items (v :: vs))
  | parts column ps => exact hblock .blockMappingStart _ nofun (not_start_parts ps)

/-- The text begins nowhere but at its start. -/
theorem not_start_tokens (p : Pair) : ∀ t ∈ p.tokens, t ≠ .streamStart :=
  List.forall_mem_append.mpr ⟨not_start_key p.key, not_start_value p.value⟩

/-- The tokens of a mapping up to the end of the text. -/
def mappingTokens (ps : List Pair) : List Token :=
  .blockMappingStart :: (ps.flatMap Pair.tokens ++ [.blockEnd, .streamEnd])

/-- Of the tokens of a mapping none begins the text a second time. -/
theorem not_start_mapping (ps : List Pair) : ∀ t ∈ mappingTokens ps, t ≠ .streamStart := by
  intro t ht
  rcases List.mem_cons.mp ht with rfl | ht
  · nofun
  rcases List.mem_append.mp ht with ht | ht
  · obtain ⟨p, -, ht⟩ := List.mem_flatMap.mp ht
    exact not_start_tokens p t ht
  · rcases List.mem_cons.mp ht with rfl | ht
    · nofun
    · rw [List.mem_singleton.mp ht]
      nofun

/-! ## §3. The document of a text. -/

/-- The document of the text holds the nodes of these pairs and nothing else. -/
def ParsesAs (text : String) (ps : List Pair) : Prop :=
  ∃ es, Document.ofText text = { events := es } ∧ es.map Prod.fst = mappingNodes ps

/-- The tokens of a mapping are told as its events, and nothing follows. -/
theorem told_mapping {ps : List Pair} (h : ∀ p ∈ ps, p.Legible) (hne : ps ≠ [])
    {ts : List (Located Token)} (hvalues : ts.map Located.value = .streamStart :: mappingTokens ps) :
    ∃ es t, (Teller.ofTokens ts none).tellAll (4 * ts.length + 16) = (es, .ok t)
      ∧ es.map Prod.fst = .documentStart :: (mappingEvents ps ++ [.documentEnd])
      ∧ Document.isFollowed t = false := by
  have hplace : (Teller.ofTokens ts none).At ⟨mappingTokens ps, .document true, []⟩ := by
    refine ⟨?_, rfl, rfl⟩
    have hfilter : (ts.filter (·.value ≠ .streamStart)).map Located.value
        = (ts.map Located.value).filter (· ≠ .streamStart) := by
      rw [List.filter_map]
      rfl
    show (ts.filter (·.value ≠ .streamStart)).map Located.value = mappingTokens ps
    rw [hfilter, hvalues, List.filter_cons_of_neg (by decide), List.filter_eq_self]
    intro t ht
    exact decide_eq_true (not_start_mapping ps t ht)
  obtain ⟨s', es, hplace', hes, htold⟩ := Teller.tells_pairs h hne _ hplace
  -- There is a token for every event, and so fuel.
  obtain ⟨n, hn⟩ : ∃ n, 4 * ts.length + 16
      = n + 1 + (Event.documentStart :: mappingEvents ps).length := by
    have hlength : ts.length = (ps.flatMap Pair.tokens).length + 4 := by
      rw [← List.length_map Located.value, hvalues]
      unfold mappingTokens
      simp only [List.length_cons, List.length_append, List.length_nil]
    have hevents : (mappingEvents ps).length = (ps.flatMap Pair.events).length + 2 := by
      unfold mappingEvents
      simp only [List.length_cons, List.length_append, List.length_nil]
    have hle := length_flatMap_le length_events_le ps
    refine ⟨4 * ts.length + 15 - (Event.documentStart :: mappingEvents ps).length, ?_⟩
    rw [List.length_cons]
    omega
  obtain ⟨m, t, hend, hfollowed⟩ := Teller.tellAll_documentEnd hplace' n
  refine ⟨es ++ [(.documentEnd, m)], t, ?_, ?_, hfollowed⟩
  · rw [hn, htold, hend]
  · rw [List.map_append, hes]
    rfl

/-- A text with the tokens of the lines of a mapping is parsed as its pairs. -/
theorem parsesAs_tokens {ps : List Pair} (h : ∀ p ∈ ps, p.Legible) (hne : ps ≠ []) {cs : List Char}
    (hlines : ∃ ts, tokens cs = (ts, none)
      ∧ ts.map Located.value = .streamStart :: (layout [] (pairLines ps) ++ [.streamEnd])) :
    ParsesAs (String.ofList cs) ps := by
  obtain ⟨ts, htokens, hvalues⟩ := hlines
  have hmapping : ts.map Located.value = .streamStart :: mappingTokens ps := by
    rw [hvalues, layout_pairs h hne]
    unfold mappingTokens
    rw [List.cons_append, List.append_assoc]
    rfl
  obtain ⟨es, t, htold, hes, hfollowed⟩ := told_mapping h hne hmapping
  have hnameless : ∀ e ∈ es, e.1.isNameless = true := by
    intro e he
    have hmem : e.1 ∈ es.map Prod.fst := List.mem_map_of_mem he
    rw [hes] at hmem
    rcases List.mem_cons.mp hmem with heq | hmem
    · rw [heq]
      rfl
    rcases List.mem_append.mp hmem with hmem | hmem
    · exact nameless_mapping ps e.1 hmem
    · rw [List.mem_singleton.mp hmem]
      rfl
  refine ⟨es.filterMap fun e => e.1.node?.map (·, e.2), ?_, ?_⟩
  · unfold Document.ofText
    rw [String.toList_ofList]
    simp only [htokens, htold, enter_nameless hnameless, hfollowed, Bool.and_false]
    unfold Document.Draft.finish
    rw [List.append_nil, List.reverse_reverse]
  · have hfirst : (fun e : Event × Mark => (e.1.node?.map (·, e.2)).map Prod.fst)
        = Event.node? ∘ Prod.fst := by
      funext e
      show (e.1.node?.map (·, e.2)).map Prod.fst = e.1.node?
      cases e.1.node? <;> rfl
    rw [List.map_filterMap, hfirst, ← List.filterMap_map, hes]
    show (mappingEvents ps ++ [Event.documentEnd]).filterMap Event.node? = _
    rw [List.filterMap_append, node?_mapping]
    exact List.append_nil _

/-- **The document of the lines of a mapping** holds the nodes of its pairs. -/
theorem document_pairs {ps : List Pair} (h : ∀ p ∈ ps, p.Legible) (hshort : ∀ p ∈ ps, p.IsShort)
    (hne : ps ≠ []) :
    ParsesAs (String.ofList (written (pairLines ps))) ps :=
  parsesAs_tokens h hne (tokens_lines (legible_pairs h) (short_pairs hshort))

end Provision.Yaml
