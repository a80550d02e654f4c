/-
  Provision.Proofs.Layout
  ───────────────────────
  **LINES AND THEIR TOKENS.**

  A line holds a key with its value, a key alone, or an item.  What its
  indentation means is said by a stack of columns: a line closes the blocks
  that are indented further, and opens one if none is left at its own column.

  Main results:

    `layout`             the tokens of lines
    `Line.head_after`    after a line its column is that of the innermost block
-/
import Provision.Proofs.ScalarTexts

namespace Provision.Yaml

/-! ## §1. Lines. -/

/-- A scalar as it is written. -/
inductive Scalar where
  | plain (cs : List Char)
  | quoted (cs : List Char)
  deriving DecidableEq, Repr

namespace Scalar

/-- The characters of a scalar. -/
def written : Scalar → List Char
  | .plain cs => cs
  | .quoted cs => '"' :: (cs.flatMap escaped ++ ['"'])

/-- The text of a scalar. -/
def text : Scalar → String
  | .plain cs => String.ofList cs
  | .quoted cs => String.ofList cs

def style : Scalar → ScalarStyle
  | .plain _ => .plain
  | .quoted _ => .doubleQuoted

def token (v : Scalar) : Token := .scalar v.text v.style

/-- Can it be written so? -/
def Legible : Scalar → Prop
  | .plain cs => IsWord cs
  | .quoted cs => ∀ c ∈ cs, isPrintableAscii c = true

def isPlain : Scalar → Bool
  | .plain _ => true
  | .quoted _ => false

end Scalar

/-- What stands on a line. -/
inductive Content where
  | entry (key : List Char) (value : Scalar)
  /-- A key with an empty sequence. -/
  | empty (key : List Char)
  /-- A key whose value is on the next lines. -/
  | opening (key : List Char)
  | item (value : Scalar)
  deriving DecidableEq, Repr

/-- The texts that are written as keys. -/
structure IsKey (cs : List Char) : Prop where
  word : IsWord cs
  hyphen : cs.head? ≠ some '-'
  dot : cs.head? ≠ some '.'

namespace Content

/-- The characters of a line after its indentation. -/
def written : Content → List Char
  | .entry key value => key ++ ':' :: ' ' :: value.written
  | .empty key => key ++ [':', ' ', '[', ']']
  | .opening key => key ++ [':']
  | .item value => '-' :: ' ' :: value.written

/-- The token that opens a block of such lines. -/
def start : Content → Token
  | .item _ => .blockSequenceStart
  | _ => .blockMappingStart

def keyTokens (key : List Char) : List Token := [.key, (Scalar.plain key).token, .value]

def tokens : Content → List Token
  | .entry key value => keyTokens key ++ [value.token]
  | .empty key => keyTokens key ++ [.flowSequenceStart, .flowSequenceEnd]
  | .opening key => keyTokens key
  | .item value => [.blockEntry, value.token]

def Legible : Content → Prop
  | .entry key value => IsKey key ∧ value.Legible
  | .empty key => IsKey key
  | .opening key => IsKey key
  | .item value => value.Legible

/-- Is the key, if there is one, no longer than the lexer takes? -/
def IsShort : Content → Prop
  | .entry key _ => key.length ≤ 1024
  | .empty key => key.length ≤ 1024
  | .opening key => key.length ≤ 1024
  | .item _ => True

/-- Would a next line that is indented further go on with the value? -/
def goesOn : Content → Bool
  | .entry _ value => value.isPlain
  | .item value => value.isPlain
  | _ => false

end Content

/-- A line: its column and what stands there. -/
structure Line where
  column : Nat
  content : Content
  deriving DecidableEq, Repr

namespace Line

def written (l : Line) : List Char :=
  List.replicate l.column ' ' ++ (l.content.written ++ ['\n'])

/-- The blocks that the line leaves open, where these were open before. -/
def left (l : Line) (blocks : List Nat) : List Nat := blocks.dropWhile fun b => l.column < b

/-- Does the line open a block? -/
def isFirst (l : Line) (blocks : List Nat) : Bool :=
  match l.left blocks with
  | [] => true
  | b :: _ => b < l.column

/-- The open blocks after the line. -/
def after (l : Line) (blocks : List Nat) : List Nat :=
  if l.isFirst blocks then l.column :: l.left blocks else l.left blocks

/-- The tokens for the blocks that the line closes and opens. -/
def bounds (l : Line) (blocks : List Nat) : List Token :=
  List.replicate (blocks.length - (l.left blocks).length) .blockEnd
    ++ (if l.isFirst blocks then [l.content.start] else [])

/-- The tokens of the line, where these blocks were open before. -/
def tokens (l : Line) (blocks : List Nat) : List Token := l.bounds blocks ++ l.content.tokens

theorem left_cons (l : Line) (b : Nat) (bs : List Nat) :
    l.left (b :: bs) = if l.column < b then l.left bs else b :: bs := by
  unfold left
  rw [List.dropWhile_cons]
  simp only [decide_eq_true_eq]

/-- No block that is left is indented further than the line. -/
theorem head_left_le (l : Line) (blocks : List Nat) : ∀ b ∈ (l.left blocks).head?, b ≤ l.column := by
  intro b hb
  have hfalse := List.head?_dropWhile_not (fun b => decide (l.column < b)) blocks
  unfold left at hb
  rw [hb] at hfalse
  exact Nat.le_of_not_lt (of_decide_eq_false hfalse)

/-- After the line its own column is that of the innermost block. -/
theorem head_after (l : Line) (blocks : List Nat) : (l.after blocks).head? = some l.column := by
  have hle := l.head_left_le blocks
  unfold after isFirst
  cases hleft : l.left blocks with
  | nil => rfl
  | cons b bs =>
      rw [hleft] at hle
      by_cases hb : b < l.column
      · rw [if_pos (decide_eq_true hb)]
        rfl
      · rw [if_neg (fun h => hb (of_decide_eq_true h)), List.head?_cons,
          Nat.le_antisymm (hle b rfl) (Nat.le_of_not_lt hb)]

end Line

/-- The characters of lines. -/
def written (ls : List Line) : List Char := ls.flatMap Line.written

/-- The tokens of lines up to the end of the text. -/
def layout : List Nat → List Line → List Token
  | blocks, [] => List.replicate blocks.length .blockEnd
  | blocks, l :: ls => l.tokens blocks ++ layout (l.after blocks) ls

/-- The lines can be written so, and none goes on with the value of the one
before. -/
def Legible : List Line → Prop
  | [] => True
  | l :: ls =>
      l.content.Legible
        ∧ (∀ l' ∈ ls.head?, l.content.goesOn = true → l'.column ≤ l.column) ∧ Legible ls

end Provision.Yaml
