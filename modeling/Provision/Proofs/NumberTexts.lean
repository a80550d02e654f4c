/-
  Provision.Proofs.NumberTexts
  ────────────────────────────
  **NUMBERS ARE READ FROM THEIR DIGITS.**

  The ten digits of a natural number have no sign, no mark of a base and no
  leading zero, so that they read as that number.

  Main results:

    `natural?_toDigits`    digits read as their number
    `natural?_hyphen`      no natural number is read behind a hyphen
-/
import Provision.Yaml.Reading

namespace Provision.Yaml

/-! ## §1. Digits. -/

/-- The digits are those from `0` to `9`. -/
theorem digit_le {c : Char} (h : c.isDigit = true) : '0' ≤ c ∧ c ≤ '9' := by
  unfold Char.isDigit at h
  rw [Bool.and_eq_true, decide_eq_true_eq, decide_eq_true_eq] at h
  exact h

/-- A digit is none of the other characters. -/
theorem ne_of_digit {c x : Char} (h : c.isDigit = true) (hx : x.isDigit = false) : c ≠ x := by
  intro heq
  rw [heq, hx] at h
  cases h

/-- The value of a digit is its distance from `0`. -/
theorem digitIn?_digit {c : Char} (h : c.isDigit = true) :
    digitIn? 10 c = some (c.toNat - '0'.toNat) := by
  have hle := digit_le h
  have hbound : c.toNat ≤ 57 := hle.2
  unfold digitIn?
  rw [if_pos hle]
  show (if c.toNat - 48 < 10 then some (c.toNat - 48) else none) = some (c.toNat - 48)
  rw [if_pos (by omega)]

/-- Digits are read from left to right. -/
theorem digitsFrom?_digits {cs : List Char} (h : ∀ c ∈ cs, c.isDigit = true) (n : Nat) :
    digitsFrom? 10 n cs = some (Nat.ofDigitChars 10 cs n) := by
  induction cs generalizing n with
  | nil => rfl
  | cons c cs ih =>
      unfold digitsFrom?
      rw [digitIn?_digit (h c (List.mem_cons_self ..)), Option.bind_some,
        ih fun d hd => h d (List.mem_cons_of_mem _ hd), Nat.mul_comm n 10]
      rfl

/-- A number is written with digits only. -/
theorem isDigit_toDigits {n : Nat} : ∀ c ∈ Nat.toDigits 10 n, c.isDigit = true :=
  fun _ hc => Nat.isDigit_of_mem_toDigits (by decide) (by decide) hc

/-- **The digits of a number are read as that number.** -/
theorem magnitude?_toDigits (n : Nat) : magnitude? 10 (Nat.toDigits 10 n) = some n := by
  have hdigits := digitsFrom?_digits (isDigit_toDigits (n := n)) 0
  rw [Nat.ofDigitChars_ten_toDigits] at hdigits
  rw [← hdigits]
  unfold magnitude?
  cases hcs : Nat.toDigits 10 n with
  | nil => exact absurd hcs Nat.toDigits_ne_nil
  | cons c cs => rfl

/-! ## §2. Leading zeros. -/

theorem digitChar_ne_zero {d : Nat} (hd : 0 < d) (hlt : d < 10) : d.digitChar ≠ '0' := by
  revert hd
  revert hlt
  revert d
  decide

/-- A number that is not zero does not begin with a zero. -/
theorem head_toDigits_ne_zero {n : Nat} (h : 0 < n) : (Nat.toDigits 10 n).head? ≠ some '0' := by
  induction n using Nat.strongRecOn with
  | _ n ih =>
      rw [Nat.toDigits_eq_if (by decide)]
      by_cases hlt : n < 10
      · rw [if_pos hlt, List.head?_cons]
        intro heq
        exact digitChar_ne_zero h hlt (Option.some.inj heq)
      · rw [if_neg hlt, List.head?_append]
        have hrest := ih (n / 10) (by omega) (by omega)
        cases hhead : (Nat.toDigits 10 (n / 10)).head? with
        | none => exact absurd (List.head?_eq_none_iff.mp hhead) Nat.toDigits_ne_nil
        | some c =>
            rw [hhead] at hrest
            exact hrest

/-- A number is written without leading zeros, which would make a text of it. -/
theorem isZeroPadded_toDigits (n : Nat) : isZeroPadded (Nat.toDigits 10 n) = false := by
  by_cases hzero : n = 0
  · subst hzero
    rw [Nat.toDigits_zero]
    rfl
  · have hhead := head_toDigits_ne_zero (Nat.pos_of_ne_zero hzero)
    have hdigits := isDigit_toDigits (n := n)
    cases hcs : Nat.toDigits 10 n with
    | nil => exact absurd hcs Nat.toDigits_ne_nil
    | cons c cs =>
        rw [hcs] at hhead hdigits
        have hc := hdigits c (List.mem_cons_self ..)
        unfold isZeroPadded
        split
        · rename_i heq
          exact absurd (List.cons.inj heq).1 (ne_of_digit hc (by decide))
        · rename_i heq
          exact absurd (List.cons.inj heq).1 (ne_of_digit hc (by decide))
        · dsimp only
          split
          · rename_i heq
            rw [heq] at hhead
            exact absurd rfl hhead
          · rfl

/-! ## §3. Natural numbers. -/

/-- The digits of a number carry no mark of another base. -/
theorem markedMagnitude?_toDigits (n : Nat) : markedMagnitude? (Nat.toDigits 10 n) = none := by
  have hdigits := isDigit_toDigits (n := n)
  unfold markedMagnitude?
  split
  · rename_i cs heq
    rw [heq] at hdigits
    exact absurd (hdigits 'x' (by simp)) (by decide)
  · rename_i cs heq
    rw [heq] at hdigits
    exact absurd (hdigits 'o' (by simp)) (by decide)
  · rename_i cs heq
    rw [heq] at hdigits
    exact absurd (hdigits 'b' (by simp)) (by decide)
  · rfl

/-- Digits read as their number if it is below the bound, and as none else. -/
theorem natural?_digits (n bound : Nat) :
    natural? bound (Nat.toDigits 10 n) = (some n).filter (· < bound) := by
  unfold natural?
  split
  · rename_i cs heq
    have hplus := isDigit_toDigits (n := n) '+'
    rw [heq] at hplus
    exact absurd (hplus (List.mem_cons_self ..)) (by decide)
  · dsimp only
    rw [markedMagnitude?_toDigits, isZeroPadded_toDigits, magnitude?_toDigits]
    rfl

/-- **Digits read as their number.** -/
theorem natural?_toDigits {n bound : Nat} (h : n < bound) :
    natural? bound (Nat.toDigits 10 n) = some n := by
  rw [natural?_digits, Option.filter_some, if_pos (decide_eq_true h)]

/-- No natural number is read behind a hyphen. -/
theorem natural?_hyphen (bound : Nat) (cs : List Char) : natural? bound ('-' :: cs) = none := by
  show (if isZeroPadded ('-' :: cs) then none else (none : Option Nat)) = none
  exact ite_self none

end Provision.Yaml
