/-
  Provision.Pattern.Reader
  ────────────────────────
  **READING PATTERNS FROM TEXT.**

  The written form of a pattern: characters stand for themselves, `.` for any
  character, brackets for a set, parentheses for a group, `|` for a choice
  and `*`, `+`, `?` and braces for repetition.  Flags in a group change how
  the rest of the group is read.  A text that is no pattern has none: an open
  parenthesis or bracket, a repetition of nothing, a range or a count in the
  wrong order, a reference back to a group, an escape without a meaning.
-/
import Provision.Pattern.Basic
import Provision.Text.Decimal

namespace Provision.Pattern

open Provision.Text

/-! ## §1. What is read, and how. -/

/-- How the characters of a pattern are read. -/
structure Flags where
  /-- Case makes no difference. -/
  anyCase : Bool := false
  /-- The ends of a line count as the ends of the text. -/
  lines : Bool := false
  /-- The dot stands for a line feed as well. -/
  dotAll : Bool := false
  /-- Few repetitions are preferred. -/
  swapGreed : Bool := false
  /-- Blanks and comments are left out. -/
  spaced : Bool := false
  deriving DecidableEq, Repr, Inhabited

/-- The rest of a written pattern, with the flags in force, the number of
groups and the names of groups so far. -/
structure Reader where
  rest : List Char
  flags : Flags := {}
  groups : Nat := 0
  names : List (List Char) := []
  deriving Inhabited

namespace Reader

/-- Drop a comment up to the end of its line. -/
def dropLine : List Char → List Char
  | [] => []
  | c :: cs => if c = '\n' then cs else dropLine cs

/-- Drop blanks and comments. -/
def dropSpaced : Nat → List Char → List Char
  | 0, cs => cs
  | n + 1, c :: cs =>
      if isBlank c then dropSpaced n cs
      else if c = '#' then dropSpaced n (dropLine cs)
      else c :: cs
  | _, [] => []

/-- The reader past what is left out. -/
def skip (r : Reader) : Reader :=
  if r.flags.spaced then { r with rest := dropSpaced r.rest.length r.rest } else r

/-! ## §2. Single characters and sets. -/

/-- The pattern of a set under the flags in force. -/
def set (f : Flags) (s : CharSet) : Pattern := .one (if f.anyCase then .anyCase s else s)

/-- The value of a hexadecimal digit. -/
def hexValue? (c : Char) : Option Nat :=
  if '0' ≤ c ∧ c ≤ '9' then some (c.toNat - 48)
  else if 'a' ≤ c ∧ c ≤ 'f' then some (c.toNat - 87)
  else if 'A' ≤ c ∧ c ≤ 'F' then some (c.toNat - 55)
  else none

/-- The character with a code point in hexadecimal. -/
def hexChar? (cs : List Char) : Option Char := do
  guard (!cs.isEmpty)
  let n ← cs.foldlM (fun n c => (hexValue? c).map (n * 16 + ·)) 0
  if n.isValidChar then some (Char.ofNat n) else none

/-- A code point of `n` digits, or any number of them between braces. -/
def codePoint? (n : Nat) : List Char → Option (Char × List Char)
  | '{' :: cs =>
      let digits := cs.takeWhile (· != '}')
      match cs.drop digits.length with
      | '}' :: rest => (hexChar? digits).map (·, rest)
      | _ => none
  | cs =>
      if n ≤ (cs.take n).length then (hexChar? (cs.take n)).map (·, cs.drop n) else none

/-- A set that is written with a backslash and a letter. -/
def namedSet? : Char → Option CharSet
  | 'd' => some .digit
  | 'D' => some (.compl .digit)
  | 's' => some .blank
  | 'S' => some (.compl .blank)
  | 'w' => some .word
  | 'W' => some (.compl .word)
  | _ => none

/-- A character that is written with a backslash. -/
def escaped? : List Char → Option (Char × List Char)
  | 'n' :: cs => some ('\n', cs)
  | 't' :: cs => some ('\t', cs)
  | 'r' :: cs => some ('\r', cs)
  | 'f' :: cs => some ('\x0c', cs)
  | 'v' :: cs => some ('\x0b', cs)
  | 'a' :: cs => some ('\x07', cs)
  | 'x' :: cs => codePoint? 2 cs
  | 'u' :: cs => codePoint? 4 cs
  | 'U' :: cs => codePoint? 8 cs
  | c :: cs =>
      if c.toNat < 128 ∧ ¬ c.isAlphanum ∧ c ≠ '<' ∧ c ≠ '>' ∧ 32 ≤ c.toNat then some (c, cs)
      else none
  | [] => none

/-- The sets with a name between brackets and colons. -/
def asciiSet? (name : String) : Option CharSet :=
  let letters := CharSet.union (.range 'a' 'z') (.range 'A' 'Z')
  let digits := CharSet.range '0' '9'
  match name with
  | "alnum" => some (.union letters digits)
  | "alpha" => some letters
  | "ascii" => some (.range '\x00' '\x7f')
  | "blank" => some (.union (.single '\t') (.single ' '))
  | "cntrl" => some (.union (.range '\x00' '\x1f') (.single '\x7f'))
  | "digit" => some digits
  | "graph" => some (.range '!' '~')
  | "lower" => some (.range 'a' 'z')
  | "print" => some (.range ' ' '~')
  | "punct" => some (.inter (.range '!' '~') (.compl (.union letters digits)))
  | "space" => some (.union (.range '\t' '\r') (.single ' '))
  | "upper" => some (.range 'A' 'Z')
  | "word" => some (.union (.union letters digits) (.single '_'))
  | "xdigit" => some (.union digits (.union (.range 'a' 'f') (.range 'A' 'F')))
  | _ => none

/-- A set with a name, after its opening bracket. -/
def asciiItem? : List Char → Option (CharSet × List Char)
  | ':' :: cs =>
      let negated := cs.head? == some '^'
      let cs := if negated then cs.drop 1 else cs
      let name := cs.takeWhile (· != ':')
      match cs.drop name.length with
      | ':' :: ']' :: rest =>
          (asciiSet? (String.ofList name)).map fun s => (if negated then .compl s else s, rest)
      | _ => none
  | _ => none

/-- One end of a range, or a set. -/
inductive SetItem where
  | char (c : Char)
  | set (s : CharSet)

/-- An item of a bracketed set, brackets aside. -/
def item? : List Char → Option (SetItem × List Char)
  | '\\' :: c :: cs =>
      match namedSet? c with
      | some s => some (.set s, cs)
      | none => (escaped? (c :: cs)).map fun p => (.char p.1, p.2)
  | '\\' :: [] => none
  | c :: cs => some (.char c, cs)
  | [] => none

/-- Read the items of a bracketed set up to its closing bracket. -/
def items : Nat → Bool → CharSet → List Char → Option (CharSet × List Char)
  | 0, _, _, _ => none
  | n + 1, first, acc, cs =>
      let add (s : CharSet) (cs : List Char) := items n false (.union acc s) cs
      /- the opening bracket of a set is behind us: is the set negated? -/
      let nested (cs : List Char) : Option (CharSet × List Char) :=
        if cs.head? == some '^' then
          (items n true .none (cs.drop 1)).map fun p => (.compl p.1, p.2)
        else items n true .none cs
      match cs with
      | [] => none
      | ']' :: rest => if first then range n acc ']' rest else some (acc, rest)
      | '[' :: rest =>
          match asciiItem? rest with
          | some (s, rest) => add s rest
          | none => (nested rest).bind fun p => add p.1 p.2
      | '&' :: '&' :: rest =>
          (items n false .none rest).map fun p => (.inter acc p.1, p.2)
      | '-' :: '-' :: rest =>
          if first then range n acc '-' ('-' :: rest)
          else (items n false .none rest).map fun p => (.inter acc (.compl p.1), p.2)
      | '~' :: '~' :: rest =>
          (items n false .none rest).map fun p =>
            (.inter (.union acc p.1) (.compl (.inter acc p.1)), p.2)
      | cs =>
          match item? cs with
          | none => none
          | some (.set s, rest) => add s rest
          | some (.char c, rest) => range n acc c rest
where
  /-- Go on after a character that may begin a range. -/
  range (n : Nat) (acc : CharSet) (c : Char) (cs : List Char) : Option (CharSet × List Char) :=
    match n with
    | 0 => none
    | n + 1 =>
        match cs with
        | '-' :: ']' :: _ => items n false (.union acc (.single c)) cs
        | '-' :: '-' :: _ => items n false (.union acc (.single c)) cs
        | '-' :: rest =>
            match item? rest with
            | some (.char d, rest) =>
                if c ≤ d then items n false (.union acc (.range c d)) rest else none
            | _ => none
        | cs => items n false (.union acc (.single c)) cs

/-- A bracketed set after its opening bracket. -/
def bracket? (cs : List Char) : Option (CharSet × List Char) :=
  let fuel := 3 * cs.length + 3
  match cs with
  | '^' :: cs => (items fuel true .none cs).map fun p => (.compl p.1, p.2)
  | cs => items fuel true .none cs

/-! ## §3. Repetition. -/

/-- How often something is repeated. -/
structure Count where
  least : Nat
  most : Option Nat

/-- The number at the front. -/
def number? (cs : List Char) : Option Nat × List Char :=
  let digits := cs.takeWhile Char.isDigit
  (readNat? digits, cs.drop digits.length)

/-- A count between braces, after the opening brace. -/
def count? (cs : List Char) : Option (Count × List Char) :=
  let blankless (cs : List Char) := cs.dropWhile (· == ' ')
  match number? (blankless cs) with
  | (least, rest) =>
    match least, blankless rest with
    | some n, '}' :: rest => some (⟨n, some n⟩, rest)
    | least, ',' :: rest =>
        match least, number? (blankless rest) with
        | some n, (none, rest) =>
            match blankless rest with
            | '}' :: rest => some (⟨n, none⟩, rest)
            | _ => none
        | least, (some m, rest) =>
            match blankless rest with
            | '}' :: rest =>
                if least.getD 0 ≤ m then some (⟨least.getD 0, some m⟩, rest) else none
            | _ => none
        | none, (none, _) => none
    | _, _ => none

/-- The repetitions of a pattern. -/
def repeated (p : Pattern) (greedy : Bool) (c : Count) : Pattern :=
  match c.least, c.most with
  | 0, none => .star greedy p
  | 1, none => plus greedy p
  | n, none => .seq (times p n) (.star greedy p)
  | n, some m => if n = m then times p n else .seq (times p n) (upTo greedy p (m - n))

/-- Read the repetitions after a pattern. -/
def repetitions : Nat → Pattern → Reader → Option (Pattern × Reader)
  | 0, p, r => some (p, r)
  | n + 1, p, r =>
      let r := r.skip
      let next : Option (Option (Count × List Char)) :=
        match r.rest with
        | '*' :: cs => some (some (⟨0, none⟩, cs))
        | '+' :: cs => some (some (⟨1, none⟩, cs))
        | '?' :: cs => some (some (⟨0, some 1⟩, cs))
        | '{' :: cs => some (count? cs)
        | _ => none
      match next with
      | none => some (p, r)
      | some none => none
      | some (some (c, cs)) =>
          let (lazy_, cs) :=
            match ({ r with rest := cs } : Reader).skip.rest with
            | '?' :: cs => (true, cs)
            | cs => (false, cs)
          repetitions n (repeated p (lazy_ == r.flags.swapGreed) c) { r with rest := cs }

/-! ## §4. Groups and sequences. -/

/-- Change one flag. -/
def Flags.put (f : Flags) (on : Bool) : Char → Option Flags
  | 'i' => some { f with anyCase := on }
  | 'm' => some { f with lines := on }
  | 's' => some { f with dotAll := on }
  | 'U' => some { f with swapGreed := on }
  | 'x' => some { f with spaced := on }
  | 'u' => if on then some f else none
  | _ => none

/-- Read flags up to a colon or a closing parenthesis, which is kept. -/
def flags? : Bool → Bool → Flags → List Char → Option (Flags × List Char)
  | _, _, _, [] => none
  | on, fresh, f, c :: cs =>
      if c = ':' ∨ c = ')' then (if fresh then none else some (f, c :: cs))
      else if c = '-' then (if on then flags? false true f cs else none)
      else (Flags.put f on c).bind fun f => flags? on false f cs

/-- May the character stand in the name of a group? -/
def isNameChar (first : Bool) (c : Char) : Bool :=
  c == '_' || c.isAlpha || (127 < c.toNat && isWordChar c) ||
    (!first && (c.isDigit || c == '.' || c == '[' || c == ']'))

/-- The name of a group, up to `>`. -/
def groupName? (cs : List Char) : Option (List Char × List Char) :=
  let name := cs.takeWhile (· != '>')
  match name, cs.drop name.length with
  | c :: more, '>' :: rest =>
      if isNameChar true c && more.all (isNameChar false) then some (name, rest) else none
  | _, _ => none

/-- What a parenthesis opens. -/
inductive Opening where
  /-- A group that is counted. -/
  | counted (name : Option (List Char)) (rest : List Char)
  /-- A group that is not counted, read with flags of its own. -/
  | plain (flags : Flags) (rest : List Char)
  /-- Flags for the rest of the group around it. -/
  | flags (flags : Flags) (rest : List Char)

/-- Read what follows an opening parenthesis. -/
def opening? (f : Flags) : List Char → Option Opening
  | '?' :: 'P' :: '<' :: cs => (groupName? cs).map fun p => .counted (some p.1) p.2
  | '?' :: '<' :: cs => (groupName? cs).map fun p => .counted (some p.1) p.2
  | '?' :: ':' :: cs => some (.plain f cs)
  | '?' :: cs =>
      match flags? true true f cs with
      | some (g, ':' :: cs) => some (.plain g cs)
      | some (g, _ :: cs) => some (.flags g cs)
      | _ => none
  | cs => some (.counted none cs)

/-- The condition that a backslash and a letter write. -/
def namedBoundary? : List Char → Option (Boundary × List Char)
  | 'b' :: '{' :: 's' :: 't' :: 'a' :: 'r' :: 't' :: '}' :: cs => some (.wordStart, cs)
  | 'b' :: '{' :: 'e' :: 'n' :: 'd' :: '}' :: cs => some (.wordEnd, cs)
  | 'b' :: cs => some (.wordEdge, cs)
  | 'B' :: cs => some (.notWordEdge, cs)
  | 'A' :: cs => some (.textStart, cs)
  | 'z' :: cs => some (.textEnd, cs)
  | '<' :: cs => some (.wordStart, cs)
  | '>' :: cs => some (.wordEnd, cs)
  | _ => none

/-- One item that is neither a group nor a repetition. -/
def plainItem? (f : Flags) : List Char → Option (Pattern × List Char)
  | '.' :: cs => some (.one (if f.dotAll then .all else .notNewline), cs)
  | '^' :: cs => some (.boundary (if f.lines then .lineStart else .textStart), cs)
  | '$' :: cs => some (.boundary (if f.lines then .lineEnd else .textEnd), cs)
  | '[' :: cs => (bracket? cs).map fun p => (set f p.1, p.2)
  | '\\' :: cs =>
      match namedBoundary? cs with
      | some (b, cs) => some (.boundary b, cs)
      | none =>
          match cs with
          | [] => none
          | c :: rest =>
              match namedSet? c with
              | some s => some (set f s, rest)
              | none => (escaped? (c :: rest)).map fun p => (set f (.single p.1), p.2)
  | c :: cs =>
      if c ∈ ['*', '+', '?', '{'] then none else some (set f (.single c), cs)
  | [] => none

mutual

/-- Read a choice up to the end of its group. -/
def choice : Nat → Reader → Option (Pattern × Reader)
  | 0, _ => none
  | n + 1, r => do
      let (p, r) ← sequence n .empty r
      match r.rest with
      | '|' :: cs =>
          let (q, r) ← choice n { r with rest := cs }
          return (.alt p q, r)
      | _ => return (p, r)

/-- Read a sequence up to a bar or the end of its group. -/
def sequence : Nat → Pattern → Reader → Option (Pattern × Reader)
  | 0, _, _ => none
  | n + 1, acc, r =>
      let r := r.skip
      let more (p : Pattern) (r : Reader) : Option (Pattern × Reader) := do
        let (p, r) ← repetitions r.rest.length p r
        sequence n (if acc = .empty then p else .seq acc p) r
      match r.rest with
      | [] | '|' :: _ | ')' :: _ => some (acc, r)
      | '(' :: cs =>
          match opening? r.flags cs with
          | none => none
          | some (.flags f cs) =>
              match cs.head? with
              | some '*' | some '+' | some '?' | some '{' => none
              | _ => sequence n acc { r with rest := cs, flags := f }
          | some (.plain f cs) => do
              let (p, s) ← choice n { r with rest := cs, flags := f }
              match s.rest with
              | ')' :: cs => more p { s with rest := cs, flags := r.flags }
              | _ => none
          | some (.counted name cs) => do
              guard (name.all fun x => !r.names.contains x)
              let index := r.groups + 1
              let (p, s) ← choice n
                { r with rest := cs, groups := index, names := name.toList ++ r.names }
              match s.rest with
              | ')' :: cs => more (.group index p) { s with rest := cs, flags := r.flags }
              | _ => none
      | cs => do
          let (p, cs) ← plainItem? r.flags cs
          more p { r with rest := cs }

end

end Reader

/-! ## §5. A whole pattern. -/

/-- The pattern that a text writes, if it writes one. -/
def ofText? (text : String) : Option Pattern :=
  let cs := text.toList
  match Reader.choice (2 * cs.length + 2) { rest := cs } with
  | some (p, r) => if r.rest.isEmpty then some p else none
  | none => none

end Provision.Pattern
