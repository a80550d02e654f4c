/-
  Provision.Yaml.Decode
  ─────────────────────
  **VALUES OF A TYPE FROM A DOCUMENT.**

  A decoder takes the events of one node and gives a value of its type.  An
  alias is decoded as the node it refers to.  A text is the characters of any
  scalar, as they are written; truth values and numbers are scalars without
  quotes; a record is a mapping whose known keys each occur at most once, in
  any order, and whose other keys are passed over.

  Main results:

    `text_scalar`      a scalar decoded as a text is its own text
-/
import Provision.Yaml.Document
import Provision.Yaml.Reading

namespace Provision.Yaml

/-! ## §1. Decoders. -/

/-- The events that are still to be decoded. -/
abbrev Events := List (NodeEvent × Mark)

/-- The way from the root of a document to a value. -/
abbrev Trail := String

/-- The way to the value of a key. -/
def Trail.key (t : Trail) (k : String) : Trail := if t == "" then k else t ++ "." ++ k

/-- The way to an item of a sequence. -/
def Trail.item (t : Trail) (i : Nat) : Trail := t ++ "[" ++ toString i ++ "]"

/-- What decodes one node: from the document, the way to the node and the
events from the node on to the value and the events after the node. -/
abbrev Decoder (α : Type) := Document → Trail → Events → Except Fault (α × Events)

/-- Nothing is left to decode. -/
def Document.exhausted {α : Type} (d : Document) : Except Fault α :=
  .error (d.fault.getD .noValue)

/-- The events from the node with an anchor on. -/
def Document.anchored (d : Document) (anchor : Nat) : Events :=
  match d.anchors.lookup anchor with
  | some i => d.events.drop i
  | none => []

/-- Decode a node, or the node that an alias refers to. -/
def node {α : Type}
    (f : Document → Trail → NodeEvent → Mark → Events → Except Fault (α × Events)) : Decoder α :=
  fun d t es =>
    match es with
    | [] => d.exhausted
    | (.alias n, _) :: rest =>
        match d.anchored n with
        | (e, m) :: inside => (f d t e m inside).map fun r => (r.1, rest)
        | [] => d.exhausted
    | (e, m) :: rest => f d t e m rest

/-! ## §2. Mismatches. -/

/-- A node that is not of the type that is asked for. -/
def mismatch {α : Type} (expected : String) (e : NodeEvent) (t : Trail) (m : Mark) :
    Except Fault α :=
  let wrongType (found : String) : Except Fault α :=
    .error (.mismatch ("invalid type: " ++ found ++ ", expected " ++ expected) t m)
  match e with
  | .scalar tag s style =>
      match readScalar tag style s with
      | .ok r => wrongType r.describe
      | .error kind =>
          .error (.mismatch
            ("invalid value: " ++ (Reading.text s).describe ++ ", expected " ++ kind) t m)
  | .sequenceStart => wrongType "sequence"
  | .mappingStart => wrongType "map"
  | _ => .error .noValue

/-! ## §3. Scalars. -/

/-- A text, under the name of what is expected. -/
def textAs (expected : String) : Decoder String :=
  node fun _ t e m rest =>
    match e with
    | .scalar _ s _ => .ok (s, rest)
    | e => mismatch expected e t m

/-- A text. -/
def text : Decoder String := textAs "a string"

/-- May the scalar be read as a kind: is it plain, or literal with its tag? -/
def isBare (kind : String) (tag : Option String) (style : ScalarStyle) : Bool :=
  style == .plain || (style == .literal && tag == some kind)

/-- A truth value. -/
def bool : Decoder Bool :=
  node fun _ t e m rest =>
    match e with
    | .scalar tag s style =>
        if isBare boolTag tag style then
          match bool? s with
          | some b => .ok (b, rest)
          | none => mismatch "a boolean" e t m
        else mismatch "a boolean" e t m
    | e => mismatch "a boolean" e t m

/-- A number of 32 bits. -/
def word : Decoder UInt32 :=
  node fun _ t e m rest =>
    match e with
    | .scalar tag s style =>
        if isBare integerTag tag style then
          match natural? (bound 64) s.toList with
          | some n =>
              if n < bound 32 then .ok (n.toUInt32, rest)
              else .error (.mismatch
                ("invalid value: " ++ (Reading.integer n).describe ++ ", expected u32") t m)
          | none => mismatch "u32" e t m
        else mismatch "u32" e t m
    | e => mismatch "u32" e t m

/-- **A scalar is a text whatever it reads as**, plain or quoted. -/
theorem text_scalar (d : Document) (t : Trail) (tag : Option String) (s : String)
    (style : ScalarStyle) (m : Mark) (rest : Events) :
    text d t ((.scalar tag s style, m) :: rest) = .ok (s, rest) := rfl

/-! ## §4. Collections. -/

/-- Is the node an empty plain scalar, or nothing at all? -/
def isAbsent : NodeEvent → Bool
  | .void => true
  | .scalar _ s style => s == "" && style == .plain
  | _ => false

/-- The items of a sequence from number `i` on. -/
def items {α : Type} (item : Decoder α) : Nat → Nat → Document → Trail → Events →
    Except Fault (List α × Events)
  | 0, _, d, _, _ => d.exhausted
  | n + 1, i, d, t, es =>
      match es with
      | [] => d.exhausted
      | (.sequenceEnd, _) :: rest => .ok ([], rest)
      | es => do
          let (a, es) ← item d (t.item i) es
          let (as, es) ← items item n (i + 1) d t es
          return (a :: as, es)

/-- A sequence; an absent node is an empty one. -/
def list {α : Type} (item : Decoder α) : Decoder (List α) :=
  node fun d t e m rest =>
    match e with
    | .sequenceStart => items item (rest.length + 1) 0 d t rest
    | e => if isAbsent e then .ok ([], rest) else mismatch "a sequence" e t m

/-- Pass over one node; `depth` counts the collections that are open. -/
def skipNode (d : Document) : Nat → Events → Except Fault Events
  | _, [] => d.exhausted
  | depth, (e, _) :: rest =>
      match e with
      | .sequenceStart | .mappingStart => skipNode d (depth + 1) rest
      | .sequenceEnd | .mappingEnd =>
          if depth ≤ 1 then .ok rest else skipNode d (depth - 1) rest
      | _ => if depth = 0 then .ok rest else skipNode d depth rest

/-! ## §5. Records. -/

/-- For every known key what its value does to a record. -/
abbrev Fields (σ : Type) := String → Option (Decoder (σ → σ))

/-- A field whose value is put into the record. -/
def field {σ α : Type} (value : Decoder α) (put : α → σ → σ) : Option (Decoder (σ → σ)) :=
  some fun d t es => (value d t es).map fun r => (put r.1, r.2)

/-- The way to the value of a key that is told by the events. -/
def valueTrail (t : Trail) (es : Events) : Trail :=
  match es with
  | (.scalar _ s _, _) :: _ => t.key s
  | _ => t.key "?"

/-- Take the keys of a mapping up to its end; `seen` are the known keys so far. -/
def entries {σ : Type} (fields : Fields σ) (start : Mark) : Nat → List String → σ → Document →
    Trail → Events → Except Fault (σ × Events)
  | 0, _, _, d, _, _ => d.exhausted
  | n + 1, seen, acc, d, t, es =>
      match es with
      | [] => d.exhausted
      | (.mappingEnd, _) :: rest => .ok (acc, rest)
      | es => do
          let way := valueTrail t es
          let (key, es) ← textAs "field identifier" d t es
          match fields key with
          | none =>
              let es ← skipNode d 0 es
              entries fields start n seen acc d t es
          | some value =>
              if seen.contains key then
                .error (.mismatch ("duplicate field `" ++ key ++ "`") t start)
              else
                let (put, es) ← value d way es
                entries fields start n (key :: seen) (put acc) d t es

/-- A record that starts from `base`; an absent node leaves it as it is. -/
def record {σ : Type} (name : String) (base : σ) (fields : Fields σ) : Decoder σ :=
  node fun d t e m rest =>
    match e with
    | .mappingStart => entries fields m (rest.length + 1) [] base d t rest
    | e => if isAbsent e then .ok (base, rest) else mismatch ("struct " ++ name) e t m

/-! ## §6. Texts. -/

/-- Decode the one document of a text. -/
def decodeText {α : Type} (f : Decoder α) (s : String) : Except Fault α := do
  let d := Document.ofText s
  let (a, _) ← f d "" d.events
  match d.fault with
  | some e => .error e
  | none => if d.followed then .error .severalDocuments else .ok a

end Provision.Yaml
