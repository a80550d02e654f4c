/-
  Provision.Yaml.Reading
  ──────────────────────
  **WHAT A SCALAR READS AS.**

  A plain scalar without a tag reads as nothing, a truth value, an integer, a
  fraction or a text, in this order.  Integers may be written in base two,
  eight and sixteen; digits behind a leading zero are a text.  A tag of the
  core schema asks for one of the kinds.
-/
import Provision.Decimal.Shortest
import Provision.Text.Quoted
import Provision.Yaml.Token

namespace Provision.Yaml

open Provision.Text

/-! ## §1. Kinds of values. -/

/-- What a scalar reads as. -/
inductive Reading where
  | unit
  | bool (b : Bool)
  /-- An integer of at most 64 bits. -/
  | integer (n : Int)
  /-- An integer of at most 128 bits. -/
  | wideInteger (n : Int)
  /-- A fraction, as its shortest text. -/
  | fraction (text : String)
  | text (s : String)
  deriving DecidableEq, Repr, Inhabited

/-- A reading as it is named where something else was asked for. -/
def Reading.describe : Reading → String
  | .unit => "unit value"
  | .bool b => "boolean `" ++ (if b then "true" else "false") ++ "`"
  | .integer n => "integer `" ++ toString n ++ "`"
  | .wideInteger n =>
      "integer `" ++ toString n ++ "` as " ++ (if n < 0 then "i128" else "u128")
  | .fraction t => "floating point `" ++ t ++ "`"
  | .text s => "string " ++ Quoted.encode s

/-! ## §2. Truth values and nothing. -/

/-- The texts that stand for nothing. -/
def isNull (s : String) : Bool := s == "null" || s == "Null" || s == "NULL" || s == "~"

/-- The truth value that a text stands for. -/
def bool? (s : String) : Option Bool :=
  if s == "true" || s == "True" || s == "TRUE" then some true
  else if s == "false" || s == "False" || s == "FALSE" then some false
  else none

/-! ## §3. Integers. -/

/-- The value of a digit in a base up to sixteen. -/
def digitIn? (base : Nat) (c : Char) : Option Nat :=
  let v :=
    if '0' ≤ c ∧ c ≤ '9' then c.toNat - 48
    else if 'a' ≤ c ∧ c ≤ 'f' then c.toNat - 87
    else if 'A' ≤ c ∧ c ≤ 'F' then c.toNat - 55
    else 16
  if v < base then some v else none

/-- The value of digits in a base, after those whose value is `n`. -/
def digitsFrom? (base : Nat) : Nat → List Char → Option Nat
  | n, [] => some n
  | n, c :: cs => (digitIn? base c).bind fun d => digitsFrom? base (n * base + d) cs

/-- The value of at least one digit in a base. -/
def magnitude? (base : Nat) : List Char → Option Nat
  | [] => none
  | cs => digitsFrom? base 0 cs

/-- The magnitude of digits with a mark for their base in front of them. -/
def markedMagnitude? : List Char → Option Nat
  | '0' :: 'x' :: cs => magnitude? 16 cs
  | '0' :: 'o' :: cs => magnitude? 8 cs
  | '0' :: 'b' :: cs => magnitude? 2 cs
  | _ => none

/-- Are these digits with a leading zero, a sign in front of them aside? -/
def isZeroPadded (cs : List Char) : Bool :=
  let digits := match cs with
    | '-' :: cs => cs
    | '+' :: cs => cs
    | cs => cs
  match digits with
  | '0' :: c :: more => (c :: more).all Char.isDigit
  | _ => false

/-- The natural number below `bound` that a text stands for. -/
def natural? (bound : Nat) (cs : List Char) : Option Nat :=
  let unsigned := match cs with
    | '+' :: cs => cs
    | cs => cs
  match (markedMagnitude? unsigned).filter (· < bound) with
  | some n => some n
  | none => if isZeroPadded cs then none else (magnitude? 10 unsigned).filter (· < bound)

/-- The negative of a natural number up to `bound` that a text stands for. -/
def negative? (bound : Nat) : List Char → Option Int
  | '-' :: cs =>
      let least (n : Option Nat) : Option Int := (n.filter (· ≤ bound)).map fun n => -(n : Int)
      match least (markedMagnitude? cs) with
      | some n => some n
      | none => if isZeroPadded cs then none else least (magnitude? 10 cs)
  | _ => none

/-- One more than the greatest number of some bits. -/
def bound (bits : Nat) : Nat := Nat.pow 2 bits

/-- The integer that a text stands for. -/
def integer? (s : String) : Option Reading :=
  let cs := s.toList
  ((natural? (bound 64) cs).map fun n => .integer n)
    <|> ((negative? (bound 63) cs).map .integer)
    <|> ((natural? (bound 128) cs).map fun n => .wideInteger n)
    <|> ((negative? (bound 127) cs).map .wideInteger)

/-! ## §4. Fractions. -/

/-- The exponent at the end of a number, if there is one. -/
def exponent? : List Char → Option Int
  | [] => some 0
  | e :: cs =>
      if e == 'e' || e == 'E' then
        match cs with
        | '-' :: cs => (magnitude? 10 cs).map fun n => -(n : Int)
        | '+' :: cs => (magnitude? 10 cs).map fun n => (n : Int)
        | cs => (magnitude? 10 cs).map fun n => (n : Int)
      else none

/-- The magnitude of a number with a point or an exponent, as its text. -/
def fractionText? (cs : List Char) : Option String := do
  let whole := cs.takeWhile Char.isDigit
  let rest := cs.drop whole.length
  let (places, rest) := match rest with
    | '.' :: rest => (rest.takeWhile Char.isDigit, rest.dropWhile Char.isDigit)
    | rest => ([], rest)
  let n ← magnitude? 10 (whole ++ places)
  let e ← exponent? rest
  let b ← Decimal.nearest? n (e - places.length)
  return b.text

/-- The fraction that a text stands for, as its shortest text. -/
def fraction? (s : String) : Option String :=
  match s with
  | ".inf" | ".Inf" | ".INF" | "+.inf" | "+.Inf" | "+.INF" => some "inf"
  | "-.inf" | "-.Inf" | "-.INF" => some "-inf"
  | ".nan" | ".NaN" | ".NAN" => some "NaN"
  | s =>
      match s.toList with
      | '-' :: cs => (fractionText? cs).map ("-" ++ ·)
      | '+' :: cs => fractionText? cs
      | cs => fractionText? cs

/-! ## §5. Scalars. -/

/-- What a plain scalar without a tag reads as. -/
def readPlainText (s : String) : Reading :=
  if s == "" || isNull s then .unit
  else match bool? s with
    | some b => .bool b
    | none =>
        match integer? s with
        | some r => r
        | none =>
            if isZeroPadded s.toList then .text s
            else match fraction? s with
              | some t => .fraction t
              | none => .text s

/-- The tags of the core schema that ask for a kind. -/
def boolTag : String := "tag:yaml.org,2002:bool"

/-- The tag of integers. -/
def integerTag : String := "tag:yaml.org,2002:int"

/-- The tag of fractions. -/
def fractionTag : String := "tag:yaml.org,2002:float"

/-- The tag of nothing. -/
def nullTag : String := "tag:yaml.org,2002:null"

/-- What a scalar reads as, or the kind that its tag asks for in vain. -/
def readScalar (tag : Option String) (style : ScalarStyle) (s : String) :
    Except String Reading :=
  match tag with
  | none => .ok (if style = .plain then readPlainText s else .text s)
  | some t =>
      if t == boolTag then
        match bool? s with
        | some b => .ok (.bool b)
        | none => .error "a boolean"
      else if t == integerTag then
        match integer? s with
        | some r => .ok r
        | none => .error "an integer"
      else if t == fractionTag then
        match fraction? s with
        | some x => .ok (.fraction x)
        | none => .error "a float"
      else if t == nullTag then
        if isNull s then .ok .unit else .error "null"
      else if t.toList.head? == some '!' && style = .plain then .ok (readPlainText s)
      else .ok (.text s)

end Provision.Yaml
