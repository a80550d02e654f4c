/-
  Provision.CommandLine.Reading
  ─────────────────────────────
  **FROM WORDS TO ARGUMENTS.**

  The words of a command line are read from left to right.  A parameter takes
  its value from the same word, after an equals sign or right after its
  letter, or else from the next word; a word that begins with a hyphen is
  never such a next word.  The value of a parameter is looked at when the next
  option is met, so that a word that means nothing at all is reported before a
  value that is not accepted.  A parameter that was not given falls back on
  its variable.

  Main results:

    `read_nil`          no words give the default arguments
    `fallBack_given`    a variable is not asked where the parameter is given
-/
import Provision.CommandLine.Arguments
import Provision.CommandLine.Refusal

namespace Provision.CommandLine

/-! ## §1. Words. -/

/-- What a word can be. -/
inductive Word where
  /-- Two hyphens: no option follows. -/
  | separator
  /-- A long name, and the value after its equals sign if there is one. -/
  | long (name : String) (value : Option String)
  /-- Letters after one hyphen. -/
  | letters (cs : List Char)
  /-- Anything else. -/
  | plain (text : String)
  deriving DecidableEq, Repr, Inhabited

/-- A text cut at its first equals sign. -/
def cutAtEquals (cs : List Char) : String × Option String :=
  match cs.dropWhile (· != '=') with
  | [] => (String.ofList cs, none)
  | _ :: value => (String.ofList (cs.takeWhile (· != '=')), some (String.ofList value))

/-- What a text is as a word. -/
def Word.ofText (text : String) : Word :=
  match text.toList with
  | ['-', '-'] => .separator
  | '-' :: '-' :: cs =>
      let (name, value) := cutAtEquals cs
      .long name value
  | '-' :: c :: cs => .letters (c :: cs)
  | _ => .plain text

/-! ## §2. The state of reading. -/

/-- How far a command line has been read. -/
structure Reading where
  arguments : Arguments := {}
  /-- The options that were given, in their order. -/
  given : List Opt := []
  /-- The last parameter, while its value is not looked at, with its value if
  that has been met. -/
  waiting : Option (Parameter × Option String) := none
  deriving Inhabited

namespace Reading

/-- End with a breach of the rules. -/
def refuse {α : Type} (f : UsageFault) : Except Refusal α := .error (.fault f)

/-- Note that an option is given; none is given twice. -/
def note (r : Reading) (o : Opt) : Except Refusal Reading :=
  if r.given.contains o then refuse (.repeated o)
  else .ok { r with given := r.given ++ [o] }

/-- Take a value for a parameter, from the command line or from a variable. -/
def accept (r : Reading) (p : Parameter) (text : String) : Except Refusal Reading :=
  match r.arguments.withValue? text p with
  | some a => .ok { r with arguments := a }
  | none => refuse (if text == "" then .valueRequired p else .invalidValue p text)

/-- Look at the value of the last parameter. -/
def settle (r : Reading) : Except Refusal Reading :=
  match r.waiting with
  | none => .ok r
  | some (p, none) => refuse (.valueRequired p)
  | some (p, some text) => do
      let r ← { r with waiting := none }.note (.parameter p)
      r.accept p text

/-- A flag. -/
def giveFlag (r : Reading) (f : Flag) : Except Refusal Reading := do
  let r ← r.settle
  let r ← r.note (.flag f)
  return { r with arguments := r.arguments.withFlag f }

/-- A parameter with a value in the same word. -/
def giveValue (r : Reading) (p : Parameter) (text : String) : Except Refusal Reading := do
  let r ← r.settle
  let r ← r.note (.parameter p)
  r.accept p text

/-- A parameter whose value is the next word. -/
def awaitValue (r : Reading) (p : Parameter) : Except Refusal Reading := do
  let r ← r.settle
  return { r with waiting := some (p, none) }

/-- A question for help or for the version. -/
def answer (r : Reading) (with_ : Refusal) : Except Refusal Reading := do
  let _ ← r.settle
  .error with_

/-! ## §3. Reading words. -/

/-- A long name. -/
def long (r : Reading) (name : String) (value : Option String) : Except Refusal Reading :=
  match Opt.ofName? name, value with
  | none, _ => refuse (.unexpected ("--" ++ name))
  | some (.parameter p), some text => r.giveValue p text
  | some (.parameter p), none => r.awaitValue p
  | some o, some text => refuse (.tooManyValues o text)
  | some (.flag f), none => r.giveFlag f
  | some .help, none => r.answer (.help true)
  | some .version, none => r.answer .version

/-- Letters after a hyphen; the rest after the letter of a parameter is its
value, without an equals sign in front. -/
def letters : List Char → Reading → Except Refusal Reading
  | [], r => .ok r
  | c :: cs, r =>
      match Opt.ofLetter? c with
      | none => refuse (.unexpected (String.ofList ['-', c]))
      | some (.flag f) => do letters cs (← r.giveFlag f)
      | some .help => r.answer (.help false)
      | some .version => r.answer .version
      | some (.parameter p) =>
          match cs with
          | [] => r.awaitValue p
          | '=' :: value => r.giveValue p (String.ofList value)
          | value => r.giveValue p (String.ofList value)

/-- A word that is no option. -/
def plain (r : Reading) (text : String) : Except Refusal Reading :=
  match r.waiting with
  | some (p, none) => .ok { r with waiting := some (p, some text) }
  | _ => refuse (.unexpected text)

/-- The words from a state on. -/
def words : List String → Reading → Except Refusal Reading
  | [], r => r.settle
  | w :: ws, r =>
      match Word.ofText w with
      | .separator =>
          match ws with
          | [] => r.settle
          | v :: _ => refuse (.unexpected v)
      | .long name value => do words ws (← r.long name value)
      | .letters cs => do words ws (← letters cs r)
      | .plain text => do words ws (← r.plain text)

/-! ## §4. The environment. -/

/-- Let a parameter fall back on its variable, if it was not given. -/
def fallBack (valueOf : String → Option String) (r : Reading) (p : Parameter) :
    Except Refusal Reading :=
  if r.given.contains (.parameter p) then .ok r
  else match p.fallback?.bind valueOf with
    | none => .ok r
    | some text => r.accept p text

/-- Refuse flags that exclude each other; the one that was given first is
reported with the other. -/
def checkExclusion (r : Reading) : Except Refusal Unit :=
  match r.given.filter fun o => o == .flag .verbose || o == .flag .quiet with
  | .flag f :: .flag g :: _ => refuse (.excluded f g)
  | _ => .ok ()

/-- A variable is not asked where its parameter is given. -/
theorem fallBack_given {valueOf : String → Option String} {r : Reading} {p : Parameter}
    (h : r.given.contains (.parameter p) = true) : fallBack valueOf r p = .ok r := by
  rw [fallBack, if_pos h]

end Reading

/-- The arguments of a command line. -/
def read (valueOf : String → Option String) (words : List String) :
    Except Refusal Arguments := do
  let r ← Reading.words words {}
  let r ← Parameter.withVariable.foldlM (Reading.fallBack valueOf) r
  r.checkExclusion
  return r.arguments

/-- No words give the default arguments. -/
theorem read_nil : read (fun _ => none) [] = .ok {} := rfl

end Provision.CommandLine
