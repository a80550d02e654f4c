/-
  Provision.Text.Utf8
  ───────────────────
  **READING BYTES AS TEXT.**

  `Utf8.decode` reads a sequence of bytes as a sequence of characters and
  malformed runs.  A malformed run is a maximal beginning of a character that
  cannot be continued, or one byte that begins none.  Reading leniently puts
  U+FFFD for each malformed run; reading strictly refuses the first one.

  Main results:

    `text?_eq_some`       strict reading succeeds without a malformed run
    `lossy_of_text?`      and then lenient reading gives the same text
-/
namespace Provision.Text.Utf8

/-! ## §1. One character. -/

/-- Read `n` more bytes of a character whose bits so far are `bits`; the next
byte must lie between `lo` and `hi`, every later one between 80 and BF. -/
def readTail (lo hi : UInt8) : Nat → Nat → List UInt8 → Option Nat × List UInt8
  | 0, bits, bs => (some bits, bs)
  | _ + 1, _, [] => (none, [])
  | n + 1, bits, b :: bs =>
      if lo ≤ b && b ≤ hi then readTail 0x80 0xBF n (bits * 64 + (b.toNat - 0x80)) bs
      else (none, b :: bs)

/-- The bytes that follow a first one are taken from the front. -/
theorem length_readTail_le (lo hi : UInt8) (n bits : Nat) (bs : List UInt8) :
    (readTail lo hi n bits bs).2.length ≤ bs.length := by
  fun_induction readTail lo hi n bits bs with
  | case1 => simp
  | case2 => simp
  | case3 _ _ _ _ _ _ _ ih => simp only [List.length_cons]; omega
  | case4 => simp

/-- The character that the byte `b` begins, or `none` where the run that it
begins is malformed, and the bytes after it. -/
def readChar (b : UInt8) (bs : List UInt8) : Option Char × List UInt8 :=
  let finish : Option Nat × List UInt8 → Option Char × List UInt8 :=
    fun r => (r.1.map Char.ofNat, r.2)
  if b < 0x80 then (some (Char.ofNat b.toNat), bs)
  else if b < 0xC2 then (none, bs)
  else if b < 0xE0 then finish (readTail 0x80 0xBF 1 (b.toNat - 0xC0) bs)
  else if b == 0xE0 then finish (readTail 0xA0 0xBF 2 0 bs)
  else if b == 0xED then finish (readTail 0x80 0x9F 2 13 bs)
  else if b < 0xF0 then finish (readTail 0x80 0xBF 2 (b.toNat - 0xE0) bs)
  else if b == 0xF0 then finish (readTail 0x90 0xBF 3 0 bs)
  else if b < 0xF4 then finish (readTail 0x80 0xBF 3 (b.toNat - 0xF0) bs)
  else if b == 0xF4 then finish (readTail 0x80 0x8F 3 4 bs)
  else (none, bs)

/-- Reading a character gives back no more bytes than were left. -/
theorem length_readChar_le (b : UInt8) (bs : List UInt8) :
    (readChar b bs).2.length ≤ bs.length := by
  simp only [readChar]
  repeat' split
  all_goals first | exact Nat.le_refl _ | exact length_readTail_le ..

/-! ## §2. A whole text. -/

/-- The characters of the bytes, with `none` for each malformed run. -/
def decode : List UInt8 → List (Option Char)
  | [] => []
  | b :: bs => (readChar b bs).1 :: decode (readChar b bs).2
termination_by bs => bs.length
decreasing_by exact Nat.lt_succ_of_le (length_readChar_le b bs)

/-- Refuse the first malformed run. -/
def allChars? : List (Option Char) → Option (List Char)
  | [] => some []
  | none :: _ => none
  | some c :: cs => (allChars? cs).map (c :: ·)

/-- The text of the bytes, if they are well formed. -/
def text? (bytes : ByteArray) : Option String :=
  (allChars? (decode bytes.toList)).map String.ofList

/-- The text of the bytes with U+FFFD for each malformed run. -/
def lossy (bytes : ByteArray) : String :=
  String.ofList ((decode bytes.toList).map (·.getD '\uFFFD'))

/-- The bytes of a text. -/
def encode (text : String) : ByteArray := text.toUTF8

/-- A text is read if every one of its characters is. -/
theorem allChars?_eq_some {ps : List (Option Char)} {cs : List Char} :
    allChars? ps = some cs ↔ ps = cs.map some := by
  induction ps generalizing cs with
  | nil => cases cs <;> simp [allChars?]
  | cons p ps ih =>
    cases p with
    | none => cases cs <;> simp [allChars?]
    | some c =>
      cases cs with
      | nil => simp [allChars?]
      | cons d ds => simp only [allChars?, Option.map_eq_some_iff, ih]; grind

/-- **Bytes are a text iff they are decoded to its characters**, with none that
is malformed. -/
theorem text?_eq_some {bytes : ByteArray} {s : String} :
    text? bytes = some s ↔ decode bytes.toList = s.toList.map some := by
  simp only [text?, Option.map_eq_some_iff, allChars?_eq_some]
  constructor
  · rintro ⟨cs, h, rfl⟩; simpa using h
  · exact fun h => ⟨s.toList, h, by simp⟩

/-- Where the bytes are well formed nothing is lost. -/
theorem lossy_of_text? {bytes : ByteArray} {s : String} (h : text? bytes = some s) :
    lossy bytes = s := by
  rw [text?_eq_some] at h
  have hid : ((·.getD '\uFFFD') ∘ some : Char → Char) = id := rfl
  rw [lossy, h, List.map_map, hid, List.map_id, String.ofList_toList]

end Provision.Text.Utf8
