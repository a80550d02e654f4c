/-
  Provision.Yaml.Lexer
  ────────────────────
  **FROM A TEXT TO ITS TOKENS.**

  The indentation of a block becomes tokens: a block starts where a line is
  indented further than the block around it and ends where one is indented
  less.  A mapping key is known by the colon after it, so that a token that
  may begin a key waits in a queue until the colon is met or can no longer
  follow; a key takes one line and at most 1024 characters.

  Main results:

    `tokens`        the tokens of a text, up to the first breach of the grammar
-/
import Provision.Yaml.PlainScalar
import Provision.Yaml.BlockScalar
import Provision.Yaml.Property

namespace Provision.Yaml

/-! ## §1. The state. -/

/-- A place where a key may have begun. -/
structure KeyPlace where
  /-- Must a key begin here, because nothing else can? -/
  required : Bool
  /-- The number of the token that may begin it. -/
  tokenNumber : Nat
  mark : Mark
  deriving DecidableEq, Repr, Inhabited

/-- The state of a lexer. -/
structure Lexer where
  cursor : Cursor
  /-- Has the first token been read? -/
  started : Bool := false
  /-- The columns of the open blocks, the innermost one first. -/
  blocks : List Nat := []
  /-- May a key begin here? -/
  keyAllowed : Bool := false
  /-- For every open bracket, and for the text around them, where a key may
  have begun; the innermost one first. -/
  keys : List (Option KeyPlace) := []
  /-- The tokens that wait, and the number of the first of them. -/
  queue : List (Located Token) := []
  delivered : Nat := 0
  deriving Inhabited

namespace Lexer

/-- Is the cursor inside brackets? -/
def inFlow (s : Lexer) : Bool := 1 < s.keys.length

/-- The mark of the cursor. -/
def mark (s : Lexer) : Mark := s.cursor.mark

/-- Put a token at the end of the queue. -/
def push (s : Lexer) (t : Token) (start stop : Mark) : Lexer :=
  { s with queue := s.queue ++ [⟨t, start, stop⟩] }

/-- Put a token in front of the waiting token with a number. -/
def insertAt (s : Lexer) (number : Nat) (t : Located Token) : Lexer :=
  let n := number - s.delivered
  { s with queue := s.queue.take n ++ [t] ++ s.queue.drop n }

/-- A breach of the grammar that needs no setting. -/
def breachHere {α : Type} (problem : String) (m : Mark) : Except Fault α :=
  .error (.grammar problem m none)

/-! ## §2. Keys. -/

/-- Can a key that may have begun at `k` no longer go on here? -/
def KeyPlace.isStale (k : KeyPlace) (here : Mark) : Bool :=
  k.mark.line < here.line || k.mark.index + 1024 < here.index

/-- What is wrong where a key that must begin has no colon. -/
def missingColon {α : Type} (k : KeyPlace) (here : Mark) : Except Fault α :=
  breach "while scanning a simple key" k.mark "could not find expected ':'" here

/-- Give up the keys that can no longer go on, the outermost first. -/
def dropStaleKeys (s : Lexer) : Except Fault Lexer := do
  let keys ← s.keys.reverse.mapM fun key =>
    match key with
    | some k =>
        if KeyPlace.isStale k s.mark then
          if k.required then missingColon k s.mark else .ok none
        else .ok (some k)
    | none => .ok none
  return { s with keys := keys.reverse }

/-- Give up the innermost key. -/
def dropKey (s : Lexer) : Except Fault Lexer :=
  match s.keys with
  | some k :: keys =>
      if k.required then missingColon k s.mark else .ok { s with keys := none :: keys }
  | _ => .ok s

/-- Remember that a key may begin here, if one may. -/
def saveKey (s : Lexer) : Except Fault Lexer :=
  if s.keyAllowed then do
    let required := !s.inFlow && s.blocks.head? == some s.mark.column
    let s ← s.dropKey
    return { s with
      keys := some ⟨required, s.delivered + s.queue.length, s.mark⟩ :: s.keys.tail }
  else .ok s

/-! ## §3. Blocks. -/

/-- Close the blocks whose column is at least `least`. -/
def closeBlocks (least : Nat) (m : Mark) : List Nat → List Nat × List (Located Token)
  | [] => ([], [])
  | b :: bs =>
      if least ≤ b then
        let (open_, ends) := closeBlocks least m bs
        (open_, ⟨.blockEnd, m, m⟩ :: ends)
      else (b :: bs, [])

/-- Close the blocks that are indented to a column or further. -/
def unroll (s : Lexer) (least : Nat) : Lexer :=
  if s.inFlow then s
  else
    let (open_, ends) := closeBlocks least s.mark s.blocks
    { s with blocks := open_, queue := s.queue ++ ends }

/-- Is a block that begins at a column inside the innermost open one? -/
def isDeeper (s : Lexer) (column : Nat) : Bool :=
  match s.blocks with
  | [] => true
  | b :: _ => b < column

/-- Open a block at the cursor, if it is inside the innermost open one. -/
def openBlock (s : Lexer) (t : Token) : Lexer :=
  if !s.inFlow && s.isDeeper s.mark.column then
    { s.push t s.mark s.mark with blocks := s.mark.column :: s.blocks }
  else s

/-- Open the mapping whose first key has begun at `k`. -/
def openMappingAt (s : Lexer) (k : KeyPlace) : Lexer :=
  if !s.inFlow && s.isDeeper k.mark.column then
    { s.insertAt k.tokenNumber ⟨.blockMappingStart, k.mark, k.mark⟩ with
      blocks := k.mark.column :: s.blocks }
  else s

/-! ## §4. Tokens. -/

/-- Push a token of `n` characters at the cursor. -/
def pushHere (s : Lexer) (t : Token) (n : Nat) : Lexer :=
  let c := s.cursor.skip n
  { s.push t s.mark c.mark with cursor := c }

/-- The end of the text; it stands at the beginning of a line. -/
def fetchEnd (s : Lexer) : Except Fault Lexer := do
  let m := if s.mark.column == 0 then s.mark else { s.mark with line := s.mark.line + 1, column := 0 }
  let s ← ({ s with cursor := ⟨m, []⟩ }.unroll 0).dropKey
  return { s.push .streamEnd m m with keyAllowed := false }

/-- A directive. -/
def fetchDirective (s : Lexer) : Except Fault Lexer := do
  let s ← (s.unroll 0).dropKey
  let (t, stop, c) ← readDirective s.cursor
  return { s.push t s.mark stop with cursor := c, keyAllowed := false }

/-- A document marker. -/
def fetchMarker (s : Lexer) (t : Token) : Except Fault Lexer := do
  let s ← (s.unroll 0).dropKey
  return { s.pushHere t 3 with keyAllowed := false }

/-- An opening bracket. -/
def fetchOpening (s : Lexer) (t : Token) : Except Fault Lexer := do
  let s ← s.saveKey
  return { s.pushHere t 1 with keys := none :: s.keys, keyAllowed := true }

/-- A closing bracket. -/
def fetchClosing (s : Lexer) (t : Token) : Except Fault Lexer := do
  let s ← s.dropKey
  let keys := if s.inFlow then s.keys.tail else s.keys
  return { s.pushHere t 1 with keys := keys, keyAllowed := false }

/-- A comma. -/
def fetchFlowEntry (s : Lexer) : Except Fault Lexer := do
  let s ← s.dropKey
  return { s.pushHere .flowEntry 1 with keyAllowed := true }

/-- A hyphen before an item. -/
def fetchBlockEntry (s : Lexer) : Except Fault Lexer := do
  if !s.inFlow && !s.keyAllowed then
    breachHere "block sequence entries are not allowed in this context" s.mark
  else
    let s ← (s.openBlock .blockSequenceStart).dropKey
    return { s.pushHere .blockEntry 1 with keyAllowed := true }

/-- A question mark before a key. -/
def fetchKey (s : Lexer) : Except Fault Lexer := do
  if !s.inFlow && !s.keyAllowed then
    breachHere "mapping keys are not allowed in this context" s.mark
  else
    let s ← (s.openBlock .blockMappingStart).dropKey
    return { s.pushHere .key 1 with keyAllowed := !s.inFlow }

/-- A colon before a value. -/
def fetchValue (s : Lexer) : Except Fault Lexer :=
  match s.keys with
  | some k :: keys =>
      let s := (s.insertAt k.tokenNumber ⟨.key, k.mark, k.mark⟩).openMappingAt k
      .ok { s.pushHere .value 1 with keys := none :: keys, keyAllowed := false }
  | _ =>
      if !s.inFlow && !s.keyAllowed then
        breachHere "mapping values are not allowed in this context" s.mark
      else
        let s := s.openBlock .blockMappingStart
        .ok { s.pushHere .value 1 with keyAllowed := !s.inFlow }

/-- An alias or an anchor. -/
def fetchAnchor (s : Lexer) (activity : String) (make : String → Token) :
    Except Fault Lexer := do
  let s ← s.saveKey
  let (name, c) ← readAnchor activity s.mark (s.cursor.skip 1)
  return { s.push (make name) s.mark c.mark with cursor := c, keyAllowed := false }

/-- A tag. -/
def fetchTag (s : Lexer) : Except Fault Lexer := do
  let s ← s.saveKey
  let (handle, suffix, c) ← readTag s.inFlow s.cursor
  return { s.push (.tag handle suffix) s.mark c.mark with cursor := c, keyAllowed := false }

/-- A block scalar. -/
def fetchBlockScalar (s : Lexer) (style : ScalarStyle) : Except Fault Lexer := do
  let s ← s.dropKey
  let (text, stop, c) ← readBlock (style == .folded) s.blocks.head? s.mark (s.cursor.skip 1)
  return { s.push (.scalar text style) s.mark stop with cursor := c, keyAllowed := true }

/-- A quoted scalar. -/
def fetchQuoted (s : Lexer) (style : ScalarStyle) : Except Fault Lexer := do
  let s ← s.saveKey
  let c := s.cursor.skip 1
  let (text, c) ← readQuoted (style == .singleQuoted) s.mark .text {} c.mark c.rest
  return { s.push (.scalar text style) s.mark c.mark with cursor := c, keyAllowed := false }

/-- A plain scalar. -/
def fetchPlain (s : Lexer) : Except Fault Lexer := do
  let s ← s.saveKey
  let indent := match s.blocks with
    | [] => 0
    | b :: _ => b + 1
  let p ← readPlain ⟨s.inFlow, indent, s.mark⟩ [] .none s.mark s.mark s.cursor.rest
  return { s.push (.scalar p.value .plain) s.mark p.stop with
    cursor := p.cursor, keyAllowed := p.broken }

/-- The characters that begin no plain scalar. -/
def isIndicator (c : Char) : Bool :=
  "-?:,[]#&*!|>'\"%@".toList.contains c || c == '\x7b' || c == '\x7d' || c.toNat == 96

/-- May a plain scalar begin here? -/
def beginsPlain (inFlow : Bool) (c : Char) (cs : List Char) : Bool :=
  (!isIndicator c && !isSpace c) || (c == '-' && !(cs.head?.any isSpace))
    || (!inFlow && (c == '?' || c == ':') && !endsWord cs)

/-- The token that begins at the cursor. -/
def fetchToken (s : Lexer) : Except Fault Lexer :=
  match s.cursor.rest with
  | [] => s.fetchEnd
  | c :: cs =>
      if s.mark.column == 0 && c == '%' then s.fetchDirective
      else if s.mark.column == 0 && atMarker (c :: cs) then
        s.fetchMarker (if c == '-' then .documentStart else .documentEnd)
      else if c == '[' then s.fetchOpening .flowSequenceStart
      else if c == '\x7b' then s.fetchOpening .flowMappingStart
      else if c == ']' then s.fetchClosing .flowSequenceEnd
      else if c == '\x7d' then s.fetchClosing .flowMappingEnd
      else if c == ',' then s.fetchFlowEntry
      else if c == '-' && endsWord cs then s.fetchBlockEntry
      else if c == '?' && (s.inFlow || endsWord cs) then s.fetchKey
      else if c == ':' && (s.inFlow || endsWord cs) then s.fetchValue
      else if c == '*' then s.fetchAnchor "while scanning an alias" .alias
      else if c == '&' then s.fetchAnchor "while scanning an anchor" .anchor
      else if c == '!' then s.fetchTag
      else if c == '|' && !s.inFlow then s.fetchBlockScalar .literal
      else if c == '>' && !s.inFlow then s.fetchBlockScalar .folded
      else if c == '\'' then s.fetchQuoted .singleQuoted
      else if c == '"' then s.fetchQuoted .doubleQuoted
      else if beginsPlain s.inFlow c cs then s.fetchPlain
      else breach "while scanning for the next token" s.mark
        "found character that cannot start any token" s.mark

/-- Read one more token, or several where blocks begin or end. -/
def fetch (s : Lexer) : Except Fault Lexer :=
  if !s.started then
    .ok { s.push .streamStart s.mark s.mark with
      started := true, keys := [none], keyAllowed := true }
  else do
    let (keyAllowed, c) :=
      skipToToken s.inFlow s.keyAllowed false s.mark s.cursor.rest
    let s ← { s with cursor := c, keyAllowed := keyAllowed }.dropStaleKeys
    (s.unroll (s.mark.column + 1)).fetchToken

/-! ## §5. All tokens. -/

/-- May the first waiting token still turn out to begin a key? -/
def headMayBeKey (s : Lexer) : Bool :=
  s.keys.any fun key => key.any fun k => k.tokenNumber == s.delivered

/-- The tokens from a state on, and the fault that ends them. -/
def run : Nat → Lexer → List (Located Token) × Option Fault
  | 0, _ => ([], none)
  | n + 1, s =>
      match s.queue with
      | [] =>
          match s.fetch with
          | .error e => ([], some e)
          | .ok s => run n s
      | t :: queue =>
          match s.dropStaleKeys with
          | .error e => ([], some e)
          | .ok s =>
              if s.headMayBeKey then
                match s.fetch with
                | .error e => ([], some e)
                | .ok s => run n s
              else if t.value = .streamEnd then ([t], none)
              else
                let (ts, e) := run n { s with queue := queue, delivered := s.delivered + 1 }
                (t :: ts, e)

end Lexer

/-- How many bytes are before the first character that no document may hold. -/
def forbiddenOffset? : Nat → List Char → Option Nat
  | _, [] => none
  | n, c :: cs => if isAllowed c then forbiddenOffset? (n + c.utf8Size) cs else some n

/-- The tokens of a text, and the fault that ends them if there is one. -/
def tokens (text : List Char) : List (Located Token) × Option Fault :=
  match forbiddenOffset? 0 text with
  | some n => ([], some (.forbiddenCharacter n))
  | none => Lexer.run (8 * text.length + 64) { cursor := { rest := text } }

end Provision.Yaml
