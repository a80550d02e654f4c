/-
  Provision.Decimal.Shortest
  ──────────────────────────
  **THE SHORTEST DECIMAL TEXT OF A BINARY FRACTION.**

  Every decimal number in the interval that rounds to a binary fraction reads
  back as it; the ends belong to the interval iff its bits are even.  The
  shortest text has the fewest digits of all numbers in the interval and is,
  among those, the nearest one.  It is written without an exponent, and with a
  point even where nothing follows it but a zero.
-/
import Provision.Decimal.Binary

namespace Provision.Decimal

/-! ## §1. The interval. -/

/-- The numbers that round to a binary fraction, all over one denominator. -/
structure Interval where
  low : Nat
  value : Nat
  high : Nat
  den : Nat
  /-- Do the ends belong to the interval? -/
  closed : Bool
  deriving Repr, Inhabited

/-- The interval of a binary fraction. -/
def Binary.interval (b : Binary) : Interval :=
  let (p, s) := ratio 2 b.q
  /- a power of two has its lower neighbour at half the distance -/
  let below := if b.m = implicitBit ∧ leastExponent < b.q then 1 else 2
  ⟨(4 * b.m - below) * p, 4 * b.m * p, (4 * b.m + 2) * p, 4 * s, b.m % 2 = 0⟩

/-- Is the number `n · 10^k` in the interval? -/
def Interval.holds (i : Interval) (n : Nat) (k : Int) : Bool :=
  let (p, s) := ratio 10 k
  let x := n * p * i.den
  let lo := i.low * s
  let hi := i.high * s
  if i.closed then lo ≤ x && x ≤ hi else lo < x && x < hi

/-! ## §2. The digits. -/

/-- The distance of `n · 10^k` from the middle of the interval. -/
def Interval.distance (i : Interval) (n : Nat) (k : Int) : Nat :=
  let (p, s) := ratio 10 k
  let x := n * p * i.den
  let v := i.value * s
  if x ≤ v then v - x else x - v

/-- The number on the grid of `10^k` that is nearest to the middle, if the
interval holds one. -/
def Interval.onGrid? (i : Interval) (k : Int) : Option Nat :=
  let (p, s) := ratio 10 k
  let n := i.value * s / (i.den * p)
  match i.holds n k, i.holds (n + 1) k with
  | true, true => some (if i.distance n k ≤ i.distance (n + 1) k then n else n + 1)
  | true, false => some n
  | false, true => some (n + 1)
  | false, false => none

/-- The coarsest grid that meets the interval, from the grid of `10^k` on. -/
def Interval.shortest (i : Interval) : Nat → Int → Nat × Int
  | 0, k => ((i.onGrid? k).getD 0, k)
  | fuel + 1, k =>
      match i.onGrid? k with
      | some n => (n, k)
      | none => i.shortest fuel (k - 1)

/-- The shortest decimal number that reads back, as digits and exponent. -/
def Binary.shortest (b : Binary) : Nat × Int :=
  if b.m = 0 then (0, 0) else b.interval.shortest 700 310

/-! ## §3. The text. -/

/-- The text of `n · 10^k` without an exponent. -/
def positional (n : Nat) (k : Int) : String :=
  let digits := Nat.toDigits 10 n
  if 0 ≤ k then
    String.ofList ((if n = 0 then ['0'] else digits ++ List.replicate k.toNat '0') ++ ['.', '0'])
  else
    let places := (-k).toNat
    let padded := List.replicate (places + 1 - digits.length) '0' ++ digits
    let whole := padded.length - places
    String.ofList (padded.take whole ++ ['.'] ++ padded.drop whole)

/-- The shortest text of a binary fraction. -/
def Binary.text (b : Binary) : String :=
  let (n, k) := b.shortest
  positional n k

end Provision.Decimal
