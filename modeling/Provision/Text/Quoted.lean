/-
  Provision.Text.Quoted
  ─────────────────────
  **TEXTS IN DOUBLE QUOTES.**

  A quoted text stands between double quotes.  Inside, a backslash escapes
  the double quote, the backslash and the usual controls; any other character
  that is not shown as it is becomes its code point in hexadecimal between
  braces.  A quoted path also escapes the single quote.
-/
import Provision.Text.Printable

namespace Provision.Text.Quoted

/-- The digits of a number in base sixteen. -/
def hexDigits (n : Nat) : List Char := Nat.toDigits 16 n

/-- The code point of a character between braces. -/
def codePoint (c : Char) : List Char :=
  ['\\', 'u', Char.ofNat 123] ++ hexDigits c.toNat ++ [Char.ofNat 125]

/-- How one character is written inside quotes. -/
def escape (c : Char) : List Char :=
  match c with
  | '\x00' => ['\\', '0']
  | '\t' => ['\\', 't']
  | '\r' => ['\\', 'r']
  | '\n' => ['\\', 'n']
  | '"' => ['\\', '"']
  | '\\' => ['\\', '\\']
  | c => if isExtending c || !isPrintable c then codePoint c else [c]

/-- The text in double quotes. -/
def encode (text : String) : String :=
  String.ofList ('"' :: text.toList.flatMap escape ++ ['"'])

/-- How one character of a path is written inside quotes. -/
def escapePath (c : Char) : List Char :=
  if c = '\'' then ['\\', '\''] else escape c

/-- The text of a path in double quotes. -/
def encodePath (text : String) : String :=
  String.ofList ('"' :: text.toList.flatMap escapePath ++ ['"'])

end Provision.Text.Quoted
