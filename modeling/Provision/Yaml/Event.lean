/-
  Provision.Yaml.Event
  ────────────────────
  **FROM TOKENS TO THE EVENTS OF A DOCUMENT.**

  The nodes of a document are told as events: a scalar, an alias, the start
  and the end of a sequence or a mapping.  What may come next is a stack of
  expectations; one step looks at the next tokens, tells one event and leaves
  the expectations that remain.  A missing node is an empty scalar.

  Main results:

    `step_finished`     nothing is told after the end of the text
-/
import Provision.Yaml.Lexer

namespace Provision.Yaml

/-! ## §1. Events. -/

/-- The anchor and the tag of a node. -/
structure Properties where
  anchor : Option String := none
  tag : Option String := none
  deriving DecidableEq, Repr, Inhabited

/-- An event. -/
inductive Event where
  | documentStart
  | documentEnd
  | streamEnd
  | alias (name : String)
  | scalar (properties : Properties) (text : String) (style : ScalarStyle)
  | sequenceStart (properties : Properties)
  | sequenceEnd
  | mappingStart (properties : Properties)
  | mappingEnd
  deriving DecidableEq, Repr, Inhabited

/-! ## §2. Expectations. -/

/-- What may come next. -/
inductive Expected where
  /-- A document; the first one needs no marker. -/
  | document (first : Bool)
  /-- The node of a document after its marker. -/
  | content
  | documentEnd
  | blockNode
  | blockEntry (first : Bool)
  /-- An item of a sequence that is indented no further than its key. -/
  | indentlessEntry
  | blockKey (first : Bool)
  | blockValue
  | flowEntry (first : Bool)
  /-- The key, the value and the end of a single pair in a sequence. -/
  | pairKey
  | pairValue
  | pairEnd
  | flowKey (first : Bool)
  | flowValue
  /-- The value of a key without a colon. -/
  | noFlowValue
  | nothing
  deriving DecidableEq, Repr, Inhabited

/-- The state of telling events. -/
structure Teller where
  tokens : List (Located Token)
  /-- The fault that ends the tokens. -/
  fault : Option Fault
  expected : Expected := .document true
  /-- What is expected after that. -/
  later : List Expected := []
  /-- Where the open collections begin. -/
  openings : List Mark := []
  /-- The handles that tags may use. -/
  handles : List (String × String) := []
  deriving Inhabited

namespace Teller

/-- An event with its mark and the state after it. -/
abbrev Told := Except Fault ((Event × Mark) × Teller)

/-- The next token. -/
def peek (s : Teller) : Except Fault (Located Token) :=
  match s.tokens with
  | t :: _ => .ok t
  | [] => .error (s.fault.getD .noValue)

/-- The state after the next token. -/
def drop (s : Teller) : Teller := { s with tokens := s.tokens.tail }

/-- Expect what is expected later. -/
def pop (s : Teller) : Teller :=
  { s with expected := s.later.head?.getD .nothing, later := s.later.tail }

/-- Expect `e` now. -/
def expecting (s : Teller) (e : Expected) : Teller := { s with expected := e }

/-- Expect `e` after what is told next. -/
def push (s : Teller) (e : Expected) : Teller := { s with later := e :: s.later }

/-- Tell an event. -/
def tell (s : Teller) (e : Event) (m : Mark) : Told := .ok ((e, m), s)

/-- Tell that a node is missing. -/
def tellMissing (s : Teller) (m : Mark) : Told := s.tell (.scalar {} "" .plain) m

/-- A breach of the grammar in an open collection. -/
def breachInside (s : Teller) (activity problem : String) (m : Mark) : Told :=
  breach activity (s.openings.head?.getD {}) problem m

/-- A breach of the grammar that needs no setting. -/
def breachAt {α : Type} (problem : String) (m : Mark) : Except Fault α :=
  .error (.grammar problem m none)

/-! ## §3. Documents. -/

/-- Read the directives before a document. -/
def readDirectives : Nat → Bool → Teller → Except Fault Teller
  | 0, _, s => .ok s
  | n + 1, versioned, s => do
      let t ← s.peek
      match t.value with
      | .versionDirective major minor =>
          if versioned then breachAt "found duplicate %YAML directive" t.start
          else if major != 1 || (minor != 1 && minor != 2) then
            breachAt "found incompatible YAML document" t.start
          else readDirectives n true s.drop
      | .tagDirective handle expansion =>
          if s.handles.any (·.1 == handle) then
            breachAt "found duplicate %TAG directive" t.start
          else
            readDirectives n versioned { s.drop with handles := s.handles ++ [(handle, expansion)] }
      | _ => .ok s

/-- The handles that every document has. -/
def standardHandles : List (String × String) := [("!", "!"), ("!!", "tag:yaml.org,2002:")]

/-- Go past the markers that end a document. -/
def dropEndMarkers : List (Located Token) → List (Located Token)
  | t :: ts => if t.value = .documentEnd then dropEndMarkers ts else t :: ts
  | [] => []

/-- Tell the start of a document, or the end of the text. -/
def tellDocument (first : Bool) (s : Teller) : Told := do
  let s := if first then s else { s with tokens := dropEndMarkers s.tokens }
  let s := { s with handles := [] }
  let t ← s.peek
  match t.value with
  | .streamEnd => (s.drop.expecting .nothing).tell .streamEnd t.start
  | _ =>
      let explicit := match t.value with
        | .versionDirective .. | .tagDirective .. | .documentStart => true
        | _ => false
      if first && !explicit then
        (({ s with handles := standardHandles }.push .documentEnd).expecting .blockNode).tell
          .documentStart t.start
      else
        let start := t.start
        let s ← readDirectives s.tokens.length false s
        let t ← s.peek
        if t.value = .documentStart then
          let s := { s with handles := s.handles ++ standardHandles }
          ((s.drop.push .documentEnd).expecting .content).tell .documentStart start
        else breachAt "did not find expected <document start>" t.start

/-- Tell the end of a document. -/
def tellDocumentEnd (s : Teller) : Told := do
  let t ← s.peek
  let s := if t.value = .documentEnd then s.drop else s
  (s.expecting (.document false)).tell .documentEnd t.start

/-! ## §4. Nodes. -/

/-- The properties of a node as they are written, where they start, and the
state after them. -/
structure Written where
  anchor : Option String := none
  tag : Option (String × String × Mark) := none
  start : Mark
  deriving Inhabited

/-- Read the anchor and the tag of a node, in either order. -/
def readWritten (s : Teller) : Except Fault (Written × Teller) := do
  let t ← s.peek
  match t.value with
  | .anchor a =>
      let u ← s.drop.peek
      match u.value with
      | .tag h x => return ({ anchor := some a, tag := some (h, x, u.start), start := t.start }, s.drop.drop)
      | _ => return ({ anchor := some a, start := t.start }, s.drop)
  | .tag h x =>
      let u ← s.drop.peek
      match u.value with
      | .anchor a => return ({ anchor := some a, tag := some (h, x, t.start), start := t.start }, s.drop.drop)
      | _ => return ({ tag := some (h, x, t.start), start := t.start }, s.drop)
  | _ => return ({ start := t.start }, s)

/-- The properties of a node with its tag in full. -/
def resolve (s : Teller) (w : Written) : Except Fault Properties :=
  match w.tag with
  | none => .ok { anchor := w.anchor }
  | some (handle, suffix, m) =>
      if handle == "" then .ok ⟨w.anchor, some suffix⟩
      else match s.handles.lookup handle with
        | some expansion => .ok ⟨w.anchor, some (expansion ++ suffix)⟩
        | none => breach "while parsing a node" w.start "found undefined tag handle" m

/-- Tell a node, or the start of one.  Only outside brackets a node may be a
block, and only a value may be a sequence that is not indented. -/
def tellNode (s : Teller) (block indentless : Bool) : Told := do
  let t ← s.peek
  match t.value with
  | .alias name => s.drop.pop.tell (.alias name) t.start
  | _ =>
      let (w, s) ← s.readWritten
      let p ← s.resolve w
      let t ← s.peek
      let start (next : Expected) (e : Event) : Told := (s.expecting next).tell e w.start
      match t.value with
      | .blockEntry =>
          if indentless then start .indentlessEntry (.sequenceStart p) else missing s w p t block
      | .scalar text style =>
          let p := if p.tag == some "!" then { p with tag := none } else p
          s.drop.pop.tell (.scalar p text style) w.start
      | .flowSequenceStart => start (.flowEntry true) (.sequenceStart p)
      | .flowMappingStart => start (.flowKey true) (.mappingStart p)
      | .blockSequenceStart =>
          if block then start (.blockEntry true) (.sequenceStart p) else missing s w p t block
      | .blockMappingStart =>
          if block then start (.blockKey true) (.mappingStart p) else missing s w p t block
      | _ => missing s w p t block
where
  /-- A node without content is an empty scalar if it has properties. -/
  missing (s : Teller) (w : Written) (p : Properties) (t : Located Token) (block : Bool) : Told :=
    if p.anchor.isSome || p.tag.isSome then s.pop.tell (.scalar p "" .plain) w.start
    else
      breach (if block then "while parsing a block node" else "while parsing a flow node") w.start
        "did not find expected node content" t.start

/-- Tell a node before one of the tokens `ends`, or that it is missing. -/
def tellNodeUnless (s : Teller) (ends : List Token) (block indentless : Bool) (next : Expected)
    (missingAt : Mark) : Told := do
  let t ← s.peek
  if ends.contains t.value then (s.expecting next).tellMissing missingAt
  else (s.push next).tellNode block indentless

/-! ## §5. Collections. -/

/-- Enter a collection, if this is its first item. -/
def enter (s : Teller) (first : Bool) : Except Fault Teller :=
  if first then do
    let t ← s.peek
    return { s.drop with openings := t.start :: s.openings }
  else .ok s

/-- Leave a collection at its last token. -/
def leave (s : Teller) (e : Event) (m : Mark) : Told :=
  { s.drop.pop with openings := s.openings.tail }.tell e m

/-- Tell an item of a block sequence, or its end. -/
def tellBlockEntry (s : Teller) (first : Bool) : Told := do
  let s ← s.enter first
  let t ← s.peek
  match t.value with
  | .blockEntry =>
      s.drop.tellNodeUnless [.blockEntry, .blockEnd] true false (.blockEntry false) t.stop
  | .blockEnd => s.leave .sequenceEnd t.start
  | _ => s.breachInside "while parsing a block collection" "did not find expected '-' indicator" t.start

/-- Tell an item of a sequence that is not indented, or its end. -/
def tellIndentlessEntry (s : Teller) : Told := do
  let t ← s.peek
  match t.value with
  | .blockEntry =>
      s.drop.tellNodeUnless [.blockEntry, .key, .value, .blockEnd] true false .indentlessEntry t.stop
  | _ => s.pop.tell .sequenceEnd t.start

/-- Tell a key of a block mapping, or the end of the mapping. -/
def tellBlockKey (s : Teller) (first : Bool) : Told := do
  let s ← s.enter first
  let t ← s.peek
  match t.value with
  | .key => s.drop.tellNodeUnless [.key, .value, .blockEnd] true true .blockValue t.stop
  | .blockEnd => s.leave .mappingEnd t.start
  | _ => s.breachInside "while parsing a block mapping" "did not find expected key" t.start

/-- Tell a value of a block mapping. -/
def tellBlockValue (s : Teller) : Told := do
  let t ← s.peek
  match t.value with
  | .value => s.drop.tellNodeUnless [.key, .value, .blockEnd] true true (.blockKey false) t.stop
  | _ => (s.expecting (.blockKey false)).tellMissing t.start

/-- Go past the comma before an item in brackets. -/
def dropComma (s : Teller) (first : Bool) (activity problem : String) : Except Fault Teller :=
  if first then .ok s
  else do
    let t ← s.peek
    if t.value = .flowEntry then return s.drop
    else breach activity (s.openings.head?.getD {}) problem t.start

/-- Tell an item of a sequence in brackets, or its end. -/
def tellFlowEntry (s : Teller) (first : Bool) : Told := do
  let s ← s.enter first
  let t ← s.peek
  if t.value = .flowSequenceEnd then s.leave .sequenceEnd t.start
  else
    let s ← s.dropComma first "while parsing a flow sequence" "did not find expected ',' or ']'"
    let t ← s.peek
    match t.value with
    | .key => (s.drop.expecting .pairKey).tell (.mappingStart {}) t.start
    | .flowSequenceEnd => s.leave .sequenceEnd t.start
    | _ => (s.push (.flowEntry false)).tellNode false false

/-- Tell the key of a single pair; where it is missing, the token that stands
in its place is gone past. -/
def tellPairKey (s : Teller) : Told := do
  let t ← s.peek
  match t.value with
  | .value | .flowEntry | .flowSequenceEnd => (s.drop.expecting .pairValue).tellMissing t.stop
  | _ => (s.push .pairValue).tellNode false false

/-- Tell the value of a single pair. -/
def tellPairValue (s : Teller) : Told := do
  let t ← s.peek
  match t.value with
  | .value => do
      let u ← s.drop.peek
      s.drop.tellNodeUnless [.flowEntry, .flowSequenceEnd] false false .pairEnd u.start
  | _ => (s.expecting .pairEnd).tellMissing t.start

/-- Tell the end of a single pair. -/
def tellPairEnd (s : Teller) : Told := do
  let t ← s.peek
  (s.expecting (.flowEntry false)).tell .mappingEnd t.start

/-- Tell a key of a mapping in braces, or the end of the mapping. -/
def tellFlowKey (s : Teller) (first : Bool) : Told := do
  let s ← s.enter first
  let t ← s.peek
  if t.value = .flowMappingEnd then s.leave .mappingEnd t.start
  else
    let s ← s.dropComma first "while parsing a flow mapping"
      "did not find expected ',' or '\x7d'"
    let t ← s.peek
    match t.value with
    | .key => do
        let u ← s.drop.peek
        s.drop.tellNodeUnless [.value, .flowEntry, .flowMappingEnd] false false .flowValue u.start
    | .flowMappingEnd => s.leave .mappingEnd t.start
    | _ => (s.push .noFlowValue).tellNode false false

/-- Tell a value of a mapping in braces. -/
def tellFlowValue (s : Teller) : Told := do
  let t ← s.peek
  match t.value with
  | .value => do
      let u ← s.drop.peek
      s.drop.tellNodeUnless [.flowEntry, .flowMappingEnd] false false (.flowKey false) u.start
  | _ => (s.expecting (.flowKey false)).tellMissing t.start

/-! ## §6. One step, and all of them. -/

/-- Tell the next event. -/
def step (s : Teller) : Told :=
  match s.expected with
  | .document first => s.tellDocument first
  | .content => do
      let t ← s.peek
      match t.value with
      | .versionDirective .. | .tagDirective .. | .documentStart | .documentEnd | .streamEnd =>
          s.pop.tellMissing t.start
      | _ => s.tellNode true false
  | .documentEnd => s.tellDocumentEnd
  | .blockNode => s.tellNode true false
  | .blockEntry first => s.tellBlockEntry first
  | .indentlessEntry => s.tellIndentlessEntry
  | .blockKey first => s.tellBlockKey first
  | .blockValue => s.tellBlockValue
  | .flowEntry first => s.tellFlowEntry first
  | .pairKey => s.tellPairKey
  | .pairValue => s.tellPairValue
  | .pairEnd => s.tellPairEnd
  | .flowKey first => s.tellFlowKey first
  | .flowValue => s.tellFlowValue
  | .noFlowValue => do
      let t ← s.peek
      (s.expecting (.flowKey false)).tellMissing t.start
  | .nothing => .error .noValue

/-- Behind the last node there is nothing to tell. -/
theorem step_finished {s : Teller} (h : s.expected = .nothing) : s.step = .error .noValue := by
  simp [step, h]

/-- The events from a state on up to the end of its document or of the text,
the state after them, and the fault that ends them. -/
def tellAll : Nat → Teller → List (Event × Mark) × Except Fault Teller
  | 0, s => ([], .ok s)
  | n + 1, s =>
      match s.step with
      | .error e => ([], .error e)
      | .ok ((.streamEnd, m), s) => ([(.streamEnd, m)], .ok s)
      | .ok ((.documentEnd, m), s) => ([(.documentEnd, m)], .ok s)
      | .ok (e, s) =>
          let (es, r) := tellAll n s
          (e :: es, r)

/-- Begin to tell the events of tokens. -/
def ofTokens (tokens : List (Located Token)) (fault : Option Fault) : Teller :=
  { tokens := tokens.filter (·.value ≠ .streamStart), fault := fault }

end Teller

end Provision.Yaml
