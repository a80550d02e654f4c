/-
  Provision.Proofs.DecodedPairs
  ─────────────────────────────
  **VALUES FROM THE NODES OF PAIRS.**

  A decoder reads nodes when it takes exactly those, wherever they stand and
  whatever follows, and gives one value.  A record is decoded by going from
  key to key: what a known key does to the record is what its value decodes
  to, and an unknown key does nothing.

  Main results:

    `decodes_list`       the items of a sequence are decoded one by one
    `decodes_record`     a record is what its pairs make of the base
    `decodes_parts`      so are the parts below a key
    `decodeText_pairs`   and so is the text of a mapping
-/
import Provision.Proofs.MappingDocument
import Provision.Proofs.NumberTexts
import Provision.Yaml.Decode

namespace Provision.Yaml

/-! ## §1. Scalars. -/

/-- The decoder takes these nodes and gives a value. -/
def Decodes {α : Type} (f : Decoder α) (nodes : List NodeEvent) (a : α) : Prop :=
  ∀ d t es rest, es.map Prod.fst = nodes → f d t (es ++ rest) = .ok (a, rest)

/-- A list with one node is that node at some mark. -/
theorem exists_single {es : List (NodeEvent × Mark)} {n : NodeEvent} (h : es.map Prod.fst = [n]) :
    ∃ m, es = [(n, m)] := by
  obtain ⟨⟨e, m⟩, rfl, he⟩ := List.map_eq_singleton_iff.mp h
  exact ⟨m, by rw [← he]⟩

/-- **A scalar is decoded as its text**, in whatever style it is written. -/
theorem decodes_text (v : Scalar) : Decodes text [v.node] v.text := by
  intro d t es rest hes
  obtain ⟨m, rfl⟩ := exists_single hes
  rfl

/-- The digits of a number. -/
def digits (n : UInt32) : List Char := Nat.toDigits 10 n.toNat

/-- A plain scalar that reads as a number of 32 bits is decoded as that number. -/
theorem word_scalar {s : String} {n : Nat} (hread : natural? (bound 64) s.toList = some n)
    (hlt : n < bound 32) (d : Document) (t : Trail) (m : Mark) (rest : Events) :
    word d t ((.scalar none s .plain, m) :: rest) = .ok (n.toUInt32, rest) := by
  have hbare : isBare integerTag none .plain = true := rfl
  unfold word node
  simp only [hbare, hread, hlt, if_true]

/-- The digits of a number are decoded as the number. -/
theorem decodes_word (n : UInt32) : Decodes word [(Scalar.plain (digits n)).node] n := by
  intro d t es rest hes
  obtain ⟨m, rfl⟩ := exists_single hes
  have hlt : n.toNat < bound 32 := n.toNat_lt
  have hread : natural? (bound 64) (String.ofList (digits n)).toList = some n.toNat := by
    rw [String.toList_ofList]
    exact natural?_toDigits (Nat.lt_trans hlt (by decide))
  have hback : n.toNat.toUInt32 = n := UInt32.ofNat_toNat
  have hword := word_scalar hread hlt d t m rest
  rw [hback] at hword
  exact hword

/-- The word of a truth value. -/
def truthWord (b : Bool) : List Char := if b then ['t', 'r', 'u', 'e'] else ['f', 'a', 'l', 's', 'e']

/-- The words for truth values are decoded as them. -/
theorem decodes_bool (b : Bool) : Decodes bool [(Scalar.plain (truthWord b)).node] b := by
  intro d t es rest hes
  obtain ⟨m, rfl⟩ := exists_single hes
  cases b <;> rfl

/-! ## §2. Sequences. -/

/-- The items of a list are decoded one after the other, up to its end. -/
theorem decodes_items {vs : List Scalar} {n i : Nat} (hn : vs.length < n)
    {d : Document} {t : Trail} {es : Events} (rest : Events)
    (hes : es.map Prod.fst = vs.map Scalar.node ++ [.sequenceEnd]) :
    items text n i d t (es ++ rest) = .ok (vs.map Scalar.text, rest) := by
  induction vs generalizing n i es with
  | nil =>
      obtain ⟨m, rfl⟩ := exists_single hes
      cases n with
      | zero => cases hn
      | succ n => rfl
  | cons v vs ih =>
      cases n with
      | zero => cases hn
      | succ n =>
          cases es with
          | nil => cases hes
          | cons e es =>
              obtain ⟨e, m⟩ := e
              obtain ⟨rfl, hrest⟩ := List.cons.inj hes
              have htail := ih (Nat.lt_of_succ_lt_succ hn) (i := i + 1) hrest
              show (items text n (i + 1) d t (es ++ rest) >>= fun r => _) = _
              rw [htail]
              rfl

/-- **The items of a sequence are decoded one by one.** -/
theorem decodes_list (column : Nat) (vs : List Scalar) :
    Decodes (list text) (Value.items column vs).nodes (vs.map Scalar.text) := by
  intro d t es rest hes
  cases es with
  | nil => cases hes
  | cons e es =>
      obtain ⟨e, m⟩ := e
      obtain ⟨rfl, hitems⟩ := List.cons.inj hes
      have hlength : es.length = vs.length + 1 := by
        rw [← List.length_map Prod.fst, hitems, List.length_append, List.length_map]
        rfl
      refine decodes_items ?_ rest hitems
      show vs.length < (es ++ rest).length + 1
      rw [List.length_append]
      omega

/-! ## §3. Records. -/

/-- What a pair does to a record: a known key puts its value, an unknown one
has a scalar and does nothing. -/
def Puts {σ : Type} (fields : Fields σ) (p : Pair) (put : σ → σ) : Prop :=
  match fields (String.ofList p.key) with
  | some value => Decodes value p.value.nodes put
  | none => (∃ v, p.value = .scalar v) ∧ put = id

/-- **A key that names a field puts its value there**, once the value is
decoded. -/
theorem puts_field {σ α : Type} {fields : Fields σ} {key : String} {v : Value} {value : Decoder α}
    {f : α → σ → σ} {a : α} {put : σ → σ} (hkey : fields key = field value f)
    (h : Decodes value v.nodes a) (hput : put = f a) : Puts fields ⟨key.toList, v⟩ put := by
  unfold Puts
  rw [String.ofList_toList, hkey]
  intro d t es rest hes
  show (value d t (es ++ rest)).map _ = _
  rw [h d t es rest hes, hput]
  rfl

/-- An unknown key does nothing. -/
theorem puts_unknown {σ : Type} {fields : Fields σ} {key : String} (v : Scalar)
    (h : fields key = none) : Puts fields ⟨key.toList, .scalar v⟩ id := by
  unfold Puts
  rw [String.ofList_toList, h]
  exact ⟨⟨v, rfl⟩, rfl⟩

section Entries

variable {σ β : Type} {fields : Fields σ} {pair : β → Pair} {put : β → σ → σ}

/-- The known keys each occur once, and none of them before. -/
def NewKeys (pair : β → Pair) (seen : List String) (bs : List β) : Prop :=
  (bs.map fun b => String.ofList (pair b).key).Nodup
    ∧ ∀ b ∈ bs, String.ofList (pair b).key ∉ seen

/-- After an entry its key has been seen as well. -/
theorem NewKeys.tail {seen : List String} {b : β} {bs : List β} (h : NewKeys pair seen (b :: bs)) :
    NewKeys pair (String.ofList (pair b).key :: seen) bs := by
  obtain ⟨hnodup, hseen⟩ := h
  rw [List.map_cons, List.nodup_cons] at hnodup
  refine ⟨hnodup.2, fun c hc hmem => ?_⟩
  rcases List.mem_cons.mp hmem with heq | hmem
  · exact hnodup.1 (heq ▸ List.mem_map_of_mem hc)
  · exact hseen c (List.mem_cons_of_mem _ hc) hmem

/-- Keys that are new to more are new to less. -/
theorem NewKeys.mono {seen seen' : List String} {bs : List β} (h : NewKeys pair seen bs)
    (hsub : ∀ k ∈ seen', k ∈ seen) : NewKeys pair seen' bs :=
  ⟨h.1, fun b hb hmem => h.2 b hb (hsub _ hmem)⟩

/-- The value of an unknown key is skipped. -/
theorem entries_unknown {key : List Char} (h : fields (String.ofList key) = none) (start : Mark)
    (n : Nat) (seen : List String) (acc : σ) (d : Document) (t : Trail) (m : Mark) (es : Events) :
    entries fields start (n + 1) seen acc d t (((Scalar.plain key).node, m) :: es)
      = skipNode d 0 es >>= fun es => entries fields start n seen acc d t es := by
  have hkey : textAs "field identifier" d t ((.scalar none (String.ofList key) .plain, m) :: es)
      = .ok (String.ofList key, es) := rfl
  simp only [entries, Scalar.node, Scalar.text, Scalar.style, hkey, bind, Except.bind, h]

/-- A known key that is new puts its value. -/
theorem entries_known {key : List Char} {value : Decoder (σ → σ)}
    (h : fields (String.ofList key) = some value) {seen : List String}
    (hnew : String.ofList key ∉ seen) (start : Mark) (n : Nat) (acc : σ) (d : Document) (t : Trail)
    (m : Mark) (es : Events) :
    entries fields start (n + 1) seen acc d t (((Scalar.plain key).node, m) :: es)
      = value d (t.key (String.ofList key)) es >>= fun r =>
          entries fields start n (String.ofList key :: seen) (r.1 acc) d t r.2 := by
  have hkey : textAs "field identifier" d t ((.scalar none (String.ofList key) .plain, m) :: es)
      = .ok (String.ofList key, es) := rfl
  have hseen : seen.contains (String.ofList key) = false := by
    rw [List.contains_eq_mem]
    exact decide_eq_false hnew
  simp only [entries, Scalar.node, Scalar.text, Scalar.style, hkey, bind, Except.bind, h, hseen,
    Bool.false_eq_true, if_false]
  rfl

/-- **Each pair is put into the record**, in the order of the keys. -/
theorem entries_pairs {bs : List β} (h : ∀ b ∈ bs, Puts fields (pair b) (put b)) {n : Nat}
    (hn : bs.length < n) {seen : List String} (hseen : NewKeys pair seen bs) (start : Mark) (acc : σ)
    {d : Document} {t : Trail} {es : Events} (rest : Events)
    (hes : es.map Prod.fst = bs.flatMap (fun b => (pair b).nodes) ++ [.mappingEnd]) :
    entries fields start n seen acc d t (es ++ rest)
      = .ok (bs.foldl (fun s b => put b s) acc, rest) := by
  induction bs generalizing n seen acc es with
  | nil =>
      obtain ⟨m, rfl⟩ := exists_single hes
      cases n with
      | zero => cases hn
      | succ n => rfl
  | cons b bs ih =>
      cases n with
      | zero => cases hn
      | succ n =>
          -- The events of the pair, and those after it.
          rw [List.flatMap_cons, List.append_assoc] at hes
          obtain ⟨es₁, es', rfl, hpair, htail⟩ := List.map_eq_append_iff.mp hes
          cases es₁ with
          | nil => cases hpair
          | cons e vs =>
              obtain ⟨e, m⟩ := e
              obtain ⟨rfl, hvalue⟩ := List.cons.inj hpair
              have hb := h b (List.mem_cons_self ..)
              have hrest := fun c hc => h c (List.mem_cons_of_mem _ hc)
              have hlt := Nat.lt_of_succ_lt_succ hn
              have happend : (((Scalar.plain (pair b).key).node, m) :: vs ++ es') ++ rest
                  = ((Scalar.plain (pair b).key).node, m) :: (vs ++ (es' ++ rest)) :=
                congrArg _ (List.append_assoc ..)
              rw [happend]
              unfold Puts at hb
              cases hfield : fields (String.ofList (pair b).key) with
              | none =>
                  rw [hfield] at hb
                  obtain ⟨⟨v, hv⟩, hput⟩ := hb
                  rw [hv] at hvalue
                  obtain ⟨m', rfl⟩ := exists_single hvalue
                  rw [entries_unknown hfield]
                  show entries fields start n seen acc d t (es' ++ rest) = _
                  rw [ih hrest hlt (hseen.tail.mono fun k hk => List.mem_cons_of_mem _ hk) _ htail,
                    List.foldl_cons, hput]
                  rfl
              | some value =>
                  rw [hfield] at hb
                  rw [entries_known hfield (hseen.2 b (List.mem_cons_self ..)), hb _ _ _ _ hvalue]
                  exact ih hrest hlt hseen.tail _ htail

end Entries

/-- **A record is what its pairs make of the base.** -/
theorem decodes_record {σ β : Type} {fields : Fields σ} {pair : β → Pair} {put : β → σ → σ}
    (name : String) (base : σ) {bs : List β} (h : ∀ b ∈ bs, Puts fields (pair b) (put b))
    (hkeys : (bs.map fun b => String.ofList (pair b).key).Nodup) :
    Decodes (record name base fields) (mappingNodes (bs.map pair))
      (bs.foldl (fun s b => put b s) base) := by
  intro d t es rest hes
  cases es with
  | nil => cases hes
  | cons e es =>
      obtain ⟨e, m⟩ := e
      obtain ⟨rfl, hpairs⟩ := List.cons.inj hes
      rw [List.flatMap_map] at hpairs
      have hlength : bs.length ≤ es.length := by
        have hle := length_flatMap_le (f := fun b : β => [b]) (g := fun b => (pair b).nodes)
          (fun _ => Nat.le_add_left 1 _) bs
        rw [← List.length_map Prod.fst, hpairs, List.length_append]
        rw [List.flatMap_singleton'] at hle
        omega
      refine entries_pairs h ?_ ⟨hkeys, fun _ _ => List.not_mem_nil⟩ m base rest hpairs
      show bs.length < (es ++ rest).length + 1
      rw [List.length_append]
      omega

/-- **The parts below a key are a record as well**, however they are given. -/
theorem decodes_parts {σ β : Type} {fields : Fields σ} {key : β → String} {scalar : β → Scalar}
    {put : β → σ → σ} (name : String) (base : σ) (column : Nat) {bs : List β}
    (h : ∀ b ∈ bs, Puts fields ⟨(key b).toList, .scalar (scalar b)⟩ (put b))
    (hkeys : (bs.map key).Nodup) :
    Decodes (record name base fields)
      (Value.parts column (bs.map fun b => ((key b).toList, scalar b))).nodes
      (bs.foldl (fun s b => put b s) base) := by
  have hnames : (bs.map fun b => String.ofList (key b).toList) = bs.map key :=
    List.map_congr_left fun b _ => String.ofList_toList
  have hrecord : Decodes (record name base fields)
      (mappingNodes (bs.map fun b => ⟨(key b).toList, .scalar (scalar b)⟩))
      (bs.foldl (fun s b => put b s) base) := decodes_record name base h (hnames ▸ hkeys)
  -- A part has the nodes of a pair, though it stands further to the right.
  have hnodes : mappingNodes (bs.map fun b => ⟨(key b).toList, .scalar (scalar b)⟩)
      = (Value.parts column (bs.map fun b => ((key b).toList, scalar b))).nodes := by
    show _ = .mappingStart :: ((bs.map fun b => ((key b).toList, scalar b)).flatMap
      (fun p => [(Scalar.plain p.1).node, p.2.node]) ++ [.mappingEnd])
    unfold mappingNodes
    rw [List.flatMap_map, List.flatMap_map]
    rfl
  rw [← hnodes]
  exact hrecord

/-- **A text of pairs is decoded to what they make of the base.** -/
theorem decodeText_pairs {σ β : Type} {fields : Fields σ} {pair : β → Pair} {put : β → σ → σ}
    (name : String) (base : σ) {bs : List β} {text : String} (hparse : ParsesAs text (bs.map pair))
    (h : ∀ b ∈ bs, Puts fields (pair b) (put b))
    (hkeys : (bs.map fun b => String.ofList (pair b).key).Nodup) :
    decodeText (record name base fields) text = .ok (bs.foldl (fun s b => put b s) base) := by
  obtain ⟨es, hdocument, hnodes⟩ := hparse
  have hrecord := decodes_record name base h hkeys { events := es } "" es [] hnodes
  rw [List.append_nil] at hrecord
  unfold decodeText
  rw [hdocument]
  show (record name base fields { events := es } "" es >>= _) = _
  rw [hrecord]
  rfl

end Provision.Yaml
