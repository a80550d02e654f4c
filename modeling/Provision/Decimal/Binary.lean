/-
  Provision.Decimal.Binary
  ────────────────────────
  **THE NEAREST BINARY FRACTION OF A DECIMAL NUMBER.**

  A binary fraction of 53 bits is a number m · 2^q with m below 2^53.  A
  decimal number is rounded to the nearest of them, a tie to the even one; a
  number that is too great has none.  All arithmetic is on natural numbers.
-/
namespace Provision.Decimal

/-- The magnitude `m · 2^q`. -/
structure Binary where
  m : Nat
  q : Int
  deriving DecidableEq, Repr, Inhabited

/-- The quotient of two numbers, rounded to the nearest, a tie to the even one. -/
def roundDiv (num den : Nat) : Nat :=
  let d := num / den
  let r := num % den
  if 2 * r < den then d
  else if den < 2 * r then d + 1
  else if d % 2 = 0 then d else d + 1

/-- A power with a natural or a negative exponent, as numerator and denominator. -/
def ratio (base : Nat) (e : Int) : Nat × Nat :=
  if 0 ≤ e then (Nat.pow base e.toNat, 1) else (1, Nat.pow base (-e).toNat)

/-- The binary logarithm of a fraction, rounded down. -/
def log2Ratio (num den : Nat) : Int :=
  let e : Int := (Nat.log2 num : Int) - (Nat.log2 den : Int)
  let (p, s) := ratio 2 e
  if num * s < den * p then e - 1 else e

/-- The least exponent of a binary fraction. -/
def leastExponent : Int := -1074

/-- The least `m` of a binary fraction that is not near zero. -/
def implicitBit : Nat := 4503599627370496

/-- The binary fraction nearest to the decimal number `digits · 10^e`. -/
def nearest? (digits : Nat) (e : Int) : Option Binary :=
  if digits = 0 then some ⟨0, leastExponent⟩
  else if 400 < (digits.log2 : Int) / 4 + e + 1 then none
  else if (digits.log2 : Int) / 3 + e + 2 < -400 then some ⟨0, leastExponent⟩
  else
    let (p, s) := ratio 10 e
    let num := digits * p
    let den := s
    let q := max (log2Ratio num den - 52) leastExponent
    let (b, c) := ratio 2 q
    let m := roundDiv (num * c) (den * b)
    let (m, q) := if m = 2 * implicitBit then (implicitBit, q + 1) else (m, q)
    if 971 < q then none else some ⟨m, q⟩

end Provision.Decimal
