/-
  Provision.Text.Decimal
  ──────────────────────
  **NUMBERS IN TEN DIGITS.**

  `readNat?` reads a text of one or more of the digits 0 to 9, `readWord?`
  one whose value fits into 32 bits.  No sign, blank or separator is taken.
-/
namespace Provision.Text

/-- The value of one of the digits 0 to 9. -/
def digitValue? (c : Char) : Option Nat :=
  if '0' ≤ c ∧ c ≤ '9' then some (c.toNat - 48) else none

/-- Read the digits after those whose value is `n`. -/
def readDigits? : Nat → List Char → Option Nat
  | n, [] => some n
  | n, c :: cs => (digitValue? c).bind fun d => readDigits? (n * 10 + d) cs

/-- The value of a text of at least one digit and nothing else. -/
def readNat? : List Char → Option Nat
  | [] => none
  | c :: cs => readDigits? 0 (c :: cs)

/-- The value of a decimal text below 2^32. -/
def readWord? (cs : List Char) : Option Nat :=
  (readNat? cs).filter (· < 4294967296)

end Provision.Text
