/-
  Provision.Text.Blank
  ────────────────────
  **BLANK CHARACTERS AND TRIMMING.**

  A character is blank when it has the White_Space property; trimming takes
  blank characters off the ends of a text and nothing else.  The functions
  work on lists of characters, so that a statement about them is a statement
  about lists; `trimmed` is the same on a `String`.

  Main results:

    `trimStart_of_head`   a text whose first character is not blank is kept
    `trim_of_ends`        a text with no blank character at either end is kept
-/
namespace Provision.Text

/-! ## §1. Blank characters. -/

/-- The characters with the White_Space property. -/
def isBlank (c : Char) : Bool :=
  let n := c.toNat
  (9 ≤ n && n ≤ 13) || n == 0x20 || n == 0x85 || n == 0xA0 || n == 0x1680
    || (0x2000 ≤ n && n ≤ 0x200A) || n == 0x2028 || n == 0x2029 || n == 0x202F
    || n == 0x205F || n == 0x3000

/-! ## §2. Trimming. -/

/-- Drop the blank characters at the front. -/
def trimStart (cs : List Char) : List Char := cs.dropWhile isBlank

/-- Drop the characters that satisfy `p` at the back. -/
def dropEndWhile (p : Char → Bool) (cs : List Char) : List Char :=
  (cs.reverse.dropWhile p).reverse

/-- Drop the blank characters at the back. -/
def trimEnd (cs : List Char) : List Char := dropEndWhile isBlank cs

/-- Drop the blank characters at both ends. -/
def trim (cs : List Char) : List Char := trimEnd (trimStart cs)

/-- The text without the blank characters at its ends. -/
def trimmed (s : String) : String := String.ofList (trim s.toList)

/-- Does the text hold blank characters only? -/
def allBlank (s : String) : Bool := s.toList.all isBlank

/-- A text that begins with ink is not trimmed in front. -/
theorem trimStart_of_head {c : Char} (h : isBlank c = false) (cs : List Char) :
    trimStart (c :: cs) = c :: cs := by
  simp [trimStart, h]

/-- Nothing is dropped behind a last character that stays. -/
theorem dropEndWhile_concat {p : Char → Bool} {c : Char} (h : p c = false)
    (cs : List Char) : dropEndWhile p (cs ++ [c]) = cs ++ [c] := by
  simp [dropEndWhile, h]

/-- A text between two characters of ink is left as it is. -/
theorem trim_of_ends {c d : Char} (hc : isBlank c = false) (hd : isBlank d = false)
    (cs : List Char) : trim (c :: (cs ++ [d])) = c :: (cs ++ [d]) := by
  rw [trim, trimStart_of_head hc, ← List.cons_append, trimEnd, dropEndWhile_concat hd]

end Provision.Text
