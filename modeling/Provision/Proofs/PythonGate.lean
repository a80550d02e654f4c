/-
  Provision.Proofs.PythonGate
  ───────────────────────────
  **THE GATE FOR THE PYTHON INTERPRETER.**

  The interpreter is asked for its version once, before any step.  What it
  says is a release if its name, a blank, digits, a dot and digits occur in it:
  the leftmost place counts, every digit that follows there belongs to the
  second number, and standard error is only looked at where standard output
  shows no release.  Any decimal digit makes such a place, but only numbers in
  the digits 0 to 9 below 2^32 can be read.

  The gate opens for the releases from 3.8 on, by number and not by text, and
  for nothing else.  Where it stays closed, the installation has made no call
  but the question.

  Main results:

    `found_release_iff`     the release that an answer tells
    `checkPython_gate`      which answers open the gate, and what the others cost
-/
import Mathlib.Data.List.TakeWhile
import Provision.Host.Recorder
import Provision.Proofs.NumberTexts
import Provision.Proofs.Parts
import Provision.Proofs.VersionSearch

namespace Provision

open Text Procedure

/-! ## §1. Texts that show a release. -/

/-- A run of at least one decimal digit, of any script. -/
def IsNumeral (cs : List Char) : Prop := cs ≠ [] ∧ ∀ c ∈ cs, isDigit c = true

/-- The text begins with the name, a blank, digits, a dot and digits. -/
def ShowsRelease (cs : List Char) : Prop :=
  ∃ major minor after, cs = "Python ".toList ++ (major ++ '.' :: (minor ++ after))
    ∧ IsNumeral major ∧ IsNumeral minor

/-- The text begins with a release, and these are all the digits of its two
numbers. -/
def BeginsRelease (cs major minor : List Char) : Prop :=
  ∃ after, cs = "Python ".toList ++ (major ++ '.' :: (minor ++ after))
    ∧ IsNumeral major ∧ IsNumeral minor ∧ ∀ c, after.head? = some c → isDigit c = false

/-- A release is shown somewhere in the text. -/
def HoldsRelease (text : String) : Prop :=
  ∃ before rest, text.toList = before ++ rest ∧ ShowsRelease rest

/-- The numbers of the leftmost release in the text. -/
def FirstRelease (text : String) (major minor : List Char) : Prop :=
  ∃ before rest, text.toList = before ++ rest ∧ BeginsRelease rest major minor
    ∧ ∀ before' rest', text.toList = before' ++ rest' → before'.length < before.length →
        ¬ ShowsRelease rest'

/-! ## §2. The numbers at a place. -/

/-- The two numbers that a text begins with. -/
def numbersAt? (cs : List Char) : Option (List Char × List Char) :=
  let major := cs.takeWhile isDigit
  let behind := cs.dropWhile isDigit
  let minor := behind.tail.takeWhile isDigit
  if major ≠ [] ∧ behind.head? = some '.' ∧ minor ≠ [] then some (major, minor) else none

/-- The two numbers of the release that a text begins with. -/
def releaseAt? (cs : List Char) : Option (List Char × List Char) :=
  if "Python ".toList.isPrefixOf cs then numbersAt? (cs.drop "Python ".toList.length) else none

/-- Behind a numeral, its digits are known from what does not follow them. -/
theorem takeWhile_numeral {numeral after : List Char} (h : ∀ c ∈ numeral, isDigit c = true)
    (hafter : ∀ c, after.head? = some c → isDigit c = false) :
    (numeral ++ after).takeWhile isDigit = numeral
      ∧ (numeral ++ after).dropWhile isDigit = after := by
  rw [List.takeWhile_append_of_pos h, List.dropWhile_append_of_pos h]
  cases after with
  | nil => exact ⟨List.append_nil _, rfl⟩
  | cons c after =>
      have hc : ¬ isDigit c = true := by
        rw [hafter c rfl]
        exact Bool.false_ne_true
      rw [List.takeWhile_cons_of_neg hc, List.dropWhile_cons_of_neg hc, List.append_nil]
      exact ⟨rfl, rfl⟩

/-- The digits at the front of a text, if there are any, are a numeral. -/
theorem isNumeral_takeWhile {cs : List Char} (h : cs.takeWhile isDigit ≠ []) :
    IsNumeral (cs.takeWhile isDigit) := ⟨h, fun _ hc => List.mem_takeWhile_imp hc⟩

/-- What stands behind the digits at the front is no digit. -/
theorem head_dropWhile {cs : List Char} {c : Char}
    (h : (cs.dropWhile isDigit).head? = some c) : isDigit c = false := by
  have hnot := List.head?_dropWhile_not isDigit cs
  rw [h] at hnot
  exact hnot

theorem dot_no_digit : isDigit '.' = false := by decide

/-- **Two numbers at a place**: a numeral, a dot and a numeral that no digit
follows. -/
theorem numbersAt?_eq_some_iff {cs major minor : List Char} :
    numbersAt? cs = some (major, minor) ↔
      ∃ after, cs = major ++ '.' :: (minor ++ after) ∧ IsNumeral major ∧ IsNumeral minor
        ∧ ∀ c, after.head? = some c → isDigit c = false := by
  constructor
  · intro h
    unfold numbersAt? at h
    dsimp only at h
    split at h
    case isFalse => cases h
    case isTrue hshape =>
      obtain ⟨hmajor, hdot, hminor⟩ := hshape
      obtain ⟨rfl, rfl⟩ := Prod.mk.inj (Option.some.inj h)
      obtain ⟨rest, hrest⟩ := List.head?_eq_some_iff.mp hdot
      refine ⟨rest.dropWhile isDigit, ?_, isNumeral_takeWhile hmajor,
        isNumeral_takeWhile hminor, fun c hc => head_dropWhile hc⟩
      rw [hrest, List.tail_cons, List.takeWhile_append_dropWhile, ← hrest,
        List.takeWhile_append_dropWhile]
  · rintro ⟨after, rfl, hmajor, hminor, hafter⟩
    have hdot : ∀ c, ('.' :: (minor ++ after)).head? = some c → isDigit c = false := by
      intro c hc
      rw [← Option.some.inj hc]
      exact dot_no_digit
    have h₁ := takeWhile_numeral hmajor.2 hdot
    have h₂ := takeWhile_numeral hminor.2 hafter
    unfold numbersAt?
    dsimp only
    rw [h₁.1, h₁.2, List.tail_cons, h₂.1, if_pos ⟨hmajor.1, rfl, hminor.1⟩]

/-- A release is found at a place iff the text there begins with one. -/
theorem releaseAt?_eq_some_iff {cs major minor : List Char} :
    releaseAt? cs = some (major, minor) ↔ BeginsRelease cs major minor := by
  unfold releaseAt?
  constructor
  · intro h
    split at h
    case isFalse => cases h
    case isTrue hname =>
      obtain ⟨numbers, rfl⟩ := List.isPrefixOf_iff_prefix.mp hname
      rw [List.drop_left] at h
      obtain ⟨after, rfl, hshape⟩ := numbersAt?_eq_some_iff.mp h
      exact ⟨after, rfl, hshape⟩
  · rintro ⟨after, rfl, hshape⟩
    rw [if_pos (List.isPrefixOf_iff_prefix.mpr (List.prefix_append _ _)), List.drop_left]
    exact numbersAt?_eq_some_iff.mpr ⟨after, rfl, hshape⟩

/-- None is found iff the text there shows none. -/
theorem releaseAt?_eq_none_iff {cs : List Char} : releaseAt? cs = none ↔ ¬ ShowsRelease cs := by
  constructor
  · rintro h ⟨major, minor, after, rfl, hmajor, hminor⟩
    -- The digits behind the second number belong to it as well.
    have hbegins : BeginsRelease ("Python ".toList ++ (major ++ '.' :: (minor ++ after))) major
        (minor ++ after.takeWhile isDigit) := by
      refine ⟨after.dropWhile isDigit, ?_, hmajor, ?_, fun c hc => head_dropWhile hc⟩
      · rw [List.append_assoc minor, List.takeWhile_append_dropWhile]
      · refine ⟨fun hnil => hminor.1 (List.append_eq_nil_iff.mp hnil).1, fun c hc => ?_⟩
        rcases List.mem_append.mp hc with hc | hc
        · exact hminor.2 c hc
        · exact List.mem_takeWhile_imp hc
    rw [releaseAt?_eq_some_iff.mpr hbegins] at h
    cases h
  · intro h
    cases hfound : releaseAt? cs with
    | none => rfl
    | some numbers =>
        obtain ⟨after, heq, hmajor, hminor, -⟩ := releaseAt?_eq_some_iff.mp hfound
        exact absurd ⟨_, _, after, heq, hmajor, hminor⟩ h

/-! ## §3. The pattern. -/

namespace ToolVersion

open Pattern

/-- The part of the pattern behind the name and the blank. -/
def numbersPattern : Pattern :=
  .seq (.plus true (.one .digit)) (.seq (.one (.single '.')) (.plus true (.one .digit)))

/-- The pattern of a number does not match where there is no digit. -/
theorem ends_digits_eq_nil {s : Place} (h : s.rest.takeWhile isDigit = []) :
    (plus true (.one .digit)).ends s = [] := ends_plus_eq_nil .digit h

/-- **The pattern of a number takes all digits first**, and fewer of them only
after that. -/
theorem ends_digits {s : Place} (h : s.rest.takeWhile isDigit ≠ []) :
    ∃ others, (plus true (.one .digit)).ends s = s.behind (s.rest.takeWhile isDigit) :: others
      ∧ ∀ t ∈ others, ∃ c, t.rest.head? = some c ∧ isDigit c = true := ends_plus .digit h

/-- The dot and the second number. -/
theorem head_ends_minor (s : Place) :
    ((Pattern.seq (.one (.single '.')) (.plus true (.one .digit))).ends s).head?
      = if s.rest.head? = some '.' ∧ s.rest.tail.takeWhile isDigit ≠ []
        then some (s.behind ('.' :: s.rest.tail.takeWhile isDigit)) else none := by
  by_cases hdot : s.rest.head? = some '.'
  · have hbehind : (s.behind ['.']).rest = s.rest.tail := List.drop_one
    rw [ends_one_seq hdot (by rw [holds_single, beq_self_eq_true])]
    by_cases hminor : s.rest.tail.takeWhile isDigit = []
    · rw [if_neg (fun h => h.2 hminor), ends_digits_eq_nil (hbehind ▸ hminor)]
      rfl
    · obtain ⟨others, hothers, -⟩ := ends_digits (s := s.behind ['.']) (hbehind ▸ hminor)
      rw [if_pos ⟨hdot, hminor⟩, hothers, hbehind, Place.behind_append]
      rfl
  · rw [if_neg (fun h => hdot h.1), ends_one_seq_eq_nil]
    · rfl
    · intro c hc
      rw [holds_single, beq_eq_false_iff_ne]
      intro heq
      exact hdot (heq ▸ hc)

/-- **The preferred way to match the two numbers.** -/
theorem head_ends_numbers (s : Place) :
    (numbersPattern.ends s).head?
      = (numbersAt? s.rest).map fun x => s.behind (x.1 ++ '.' :: x.2) := by
  unfold numbersAt?
  dsimp only
  rw [numbersPattern, ends_seq]
  by_cases hmajor : s.rest.takeWhile isDigit = []
  · rw [ends_digits_eq_nil hmajor, if_neg (fun h => h.1 hmajor)]
    rfl
  obtain ⟨others, hothers, hbefore⟩ := ends_digits hmajor
  -- From every other end of the first number a digit follows, and no dot.
  have hnone : others.flatMap
      (Pattern.seq (.one (.single '.')) (.plus true (.one .digit))).ends = [] := by
    rw [List.flatMap_eq_nil_iff]
    intro t ht
    obtain ⟨c, hc, hdigit⟩ := hbefore t ht
    rw [← List.head?_eq_none_iff, head_ends_minor, if_neg]
    rintro ⟨hdot, -⟩
    rw [Option.some.inj (hc.symm.trans hdot), dot_no_digit] at hdigit
    cases hdigit
  have hrest := s.rest_behind_run isDigit
  rw [hothers, List.flatMap_cons, hnone, List.append_nil, head_ends_minor, hrest,
    Place.behind_append]
  split
  · rw [if_pos ⟨hmajor, ‹_›⟩]
    rfl
  · rw [if_neg (fun h => absurd h.2 ‹_›)]
    rfl

/-- **What the pattern matches at a place**: the two numbers of the release
that begins there. -/
theorem ends_python (before : Option Char) (cs : List Char) :
    ((pythonPattern.ends ⟨before, cs, []⟩).head?).map Place.groups
      = (releaseAt? cs).map fun x => [(1, x.1 ++ '.' :: x.2)] := by
  refine groups_behind_word head_ends_numbers (fun cs x hx => ?_) _ before cs
  obtain ⟨after, heq, -⟩ := numbersAt?_eq_some_iff.mp hx
  exact ⟨after, by rw [heq, List.append_assoc]; rfl⟩

end ToolVersion

/-! ## §4. Numbers that can be read. -/

/-- The text is the number in the digits 0 to 9, and the number is below 2^32. -/
def IsWord (cs : List Char) (n : Nat) : Prop :=
  (∀ c ∈ cs, c.isDigit = true) ∧ Nat.ofDigitChars 10 cs 0 = n ∧ n < UInt32.size

/-- A digit of ASCII has a value. -/
theorem digitValue?_digit {c : Char} (h : c.isDigit = true) :
    digitValue? c = some (c.toNat - '0'.toNat) := if_pos (Yaml.digit_le h)

/-- No other character has one, even if the pattern takes it for a digit. -/
theorem digitValue?_other {c : Char} (h : ¬ c.isDigit = true) : digitValue? c = none := by
  apply if_neg
  intro hle
  apply h
  unfold Char.isDigit
  rw [Bool.and_eq_true, decide_eq_true_eq, decide_eq_true_eq]
  exact hle

/-- Digits are read as the number that they spell. -/
theorem readDigits?_eq_some_iff {cs : List Char} {n value : Nat} :
    readDigits? n cs = some value ↔
      (∀ c ∈ cs, c.isDigit = true) ∧ Nat.ofDigitChars 10 cs n = value := by
  induction cs generalizing n with
  | nil =>
      constructor
      · intro h
        exact ⟨fun c hc => absurd hc List.not_mem_nil, Option.some.inj h⟩
      · rintro ⟨-, rfl⟩
        rfl
  | cons c cs ih =>
      rw [readDigits?, List.forall_mem_cons]
      by_cases hc : c.isDigit = true
      · rw [digitValue?_digit hc, Option.bind_some, ih, Nat.ofDigitChars_cons, Nat.mul_comm 10 n]
        exact ⟨fun h => ⟨⟨hc, h.1⟩, h.2⟩, fun h => ⟨h.1.2, h.2⟩⟩
      · rw [digitValue?_other hc, Option.bind_none]
        exact ⟨fun h => absurd h (Option.some_ne_none _).symm, fun h => absurd h.1.1 hc⟩

/-- **The numbers that can be read.** -/
theorem readWord?_eq_some_iff {cs : List Char} {n : Nat} :
    readWord? cs = some n ↔ cs ≠ [] ∧ IsWord cs n := by
  unfold readWord? IsWord
  rw [Option.filter_eq_some_iff, decide_eq_true_eq]
  cases cs with
  | nil => exact ⟨fun h => absurd h.1 (Option.some_ne_none _).symm, fun h => absurd rfl h.1⟩
  | cons c cs =>
      rw [readNat?, readDigits?_eq_some_iff]
      exact ⟨fun h => ⟨List.cons_ne_nil c cs, h.1.1, h.1.2, h.2⟩,
        fun h => ⟨⟨h.2.1, h.2.2.1⟩, h.2.2.2⟩⟩

/-- No blank character is a digit. -/
theorem isDigit_of_isBlank {c : Char} (h : isBlank c = true) : isDigit c = false := by
  have hcode : c.toNat ∈ [9, 10, 11, 12, 13, 0x20, 0x85, 0xA0, 0x1680, 0x2000, 0x2001, 0x2002,
      0x2003, 0x2004, 0x2005, 0x2006, 0x2007, 0x2008, 0x2009, 0x200A, 0x2028, 0x2029, 0x202F,
      0x205F, 0x3000] := by
    unfold isBlank at h
    simp only [Bool.or_eq_true, Bool.and_eq_true, decide_eq_true_eq, beq_iff_eq] at h
    simp only [List.mem_cons, List.not_mem_nil, or_false]
    omega
  unfold isDigit
  generalize c.toNat = n at hcode
  revert n
  decide

theorem isBlank_of_isDigit {c : Char} (h : isDigit c = true) : isBlank c = false := by
  rw [Bool.eq_false_iff]
  intro hblank
  rw [isDigit_of_isBlank hblank] at h
  cases h

/-- Two numbers around a dot have no blanks at their ends. -/
theorem trim_numbers {major minor : List Char} (hmajor : IsNumeral major)
    (hminor : IsNumeral minor) : trim (major ++ '.' :: minor) = major ++ '.' :: minor := by
  obtain ⟨c, front, rfl⟩ := List.exists_cons_of_ne_nil hmajor.1
  obtain ⟨back, d, rfl⟩ := (List.eq_nil_or_concat minor).resolve_left hminor.1
  have hc := isBlank_of_isDigit (hmajor.2 c List.mem_cons_self)
  have hd := isBlank_of_isDigit (hminor.2 d (by rw [List.concat_eq_append]; simp))
  have hshape := trim_of_ends hc hd (front ++ '.' :: back)
  rw [List.append_assoc] at hshape
  rw [List.concat_eq_append]
  exact hshape

/-- The two numbers are read from the text around the first dot. -/
theorem ofText?_numbers {major minor : List Char} (hmajor : IsNumeral major) :
    ToolVersion.Release.ofText? (String.ofList (major ++ '.' :: minor))
      = (readWord? major).bind fun a => (readWord? minor).map fun b => ⟨a, b⟩ := by
  have hcut : (major ++ '.' :: minor).takeWhile (· != '.') = major := by
    rw [List.takeWhile_append_of_pos]
    · exact List.append_nil major
    · intro c hc
      rw [bne_iff_ne]
      rintro rfl
      exact absurd (hmajor.2 _ hc) (by rw [dot_no_digit]; exact Bool.false_ne_true)
  unfold ToolVersion.Release.ofText?
  rw [String.toList_ofList, hcut]
  dsimp only
  rw [List.drop_left]
  show ((readWord? major).bind fun a => (readWord? minor).bind fun b => some _) = _
  cases readWord? major with
  | none => rfl
  | some a => cases readWord? minor <;> rfl

/-! ## §5. What an answer tells. -/

/-- The text that counts: standard error where standard output shows no
release. -/
def Captured.Searched (r : Captured) (text : String) : Prop :=
  (HoldsRelease r.stdout ∧ text = r.stdout) ∨ (¬ HoldsRelease r.stdout ∧ text = r.stderr)

namespace ToolVersion

/-- The answer tells the release: the command started and succeeded, and both
numbers of the leftmost release in the text that counts can be read. -/
def Tells (answer : Except Failure Captured) (release : Release) : Prop :=
  ∃ r text major minor, answer = .ok r ∧ r.succeeded = true ∧ r.Searched text
    ∧ FirstRelease text major minor ∧ IsWord major release.major ∧ IsWord minor release.minor

/-- The leftmost release of a text is its first one. -/
theorem leftmost_release_eq_some {text : String} {x : List Char × List Char} :
    leftmost releaseAt? text.toList = some x ↔ FirstRelease text x.1 x.2 := by
  obtain ⟨major, minor⟩ := x
  rw [leftmost_eq_some_iff]
  unfold FirstRelease
  simp only [releaseAt?_eq_some_iff, releaseAt?_eq_none_iff]

/-- There is none iff the text holds no release. -/
theorem leftmost_release_eq_none {text : String} :
    leftmost releaseAt? text.toList = none ↔ ¬ HoldsRelease text := by
  rw [leftmost_eq_none_iff]
  unfold HoldsRelease
  simp only [releaseAt?_eq_none_iff, not_exists, not_and]

/-- The release that is found stands in the text that counts. -/
theorem searched_iff {r : Captured} {x : List Char × List Char} :
    (leftmost releaseAt? r.stdout.toList).or (leftmost releaseAt? r.stderr.toList) = some x ↔
      ∃ text, r.Searched text ∧ FirstRelease text x.1 x.2 := by
  by_cases hout : HoldsRelease r.stdout
  · obtain ⟨y, hy⟩ : ∃ y, leftmost releaseAt? r.stdout.toList = some y := by
      apply Option.ne_none_iff_exists'.mp
      intro hnone
      exact leftmost_release_eq_none.mp hnone hout
    rw [hy, Option.some_or, ← hy, leftmost_release_eq_some]
    constructor
    · exact fun h => ⟨_, .inl ⟨hout, rfl⟩, h⟩
    · rintro ⟨text, ⟨-, rfl⟩ | ⟨hnone, -⟩, h⟩
      · exact h
      · exact absurd hout hnone
  · rw [leftmost_release_eq_none.mpr hout, Option.none_or, leftmost_release_eq_some]
    constructor
    · exact fun h => ⟨_, .inr ⟨hout, rfl⟩, h⟩
    · rintro ⟨text, ⟨hsome, -⟩ | ⟨-, rfl⟩, h⟩
      · exact absurd hsome hout
      · exact h

/-- The two numbers of a release, as they are read. -/
theorem ofText?_found {text : String} {x : List Char × List Char}
    (h : FirstRelease text x.1 x.2) {release : Release} :
    Release.ofText? (trimmed (String.ofList (x.1 ++ '.' :: x.2))) = some release ↔
      IsWord x.1 release.major ∧ IsWord x.2 release.minor := by
  obtain ⟨-, -, -, ⟨-, -, hmajor, hminor, -⟩, -⟩ := h
  rw [trimmed, String.toList_ofList, trim_numbers hmajor hminor, ofText?_numbers hmajor,
    Option.bind_eq_some_iff]
  constructor
  · rintro ⟨a, ha, hb⟩
    obtain ⟨b, hread, rfl⟩ := Option.map_eq_some_iff.mp hb
    exact ⟨(readWord?_eq_some_iff.mp ha).2, (readWord?_eq_some_iff.mp hread).2⟩
  · rintro ⟨ha, hb⟩
    refine ⟨_, readWord?_eq_some_iff.mpr ⟨hmajor.1, ha⟩, ?_⟩
    rw [readWord?_eq_some_iff.mpr ⟨hminor.1, hb⟩]
    rfl

/-- **The release that an answer tells.** -/
theorem found_release_iff {answer : Except Failure Captured} {release : Release} :
    (found pythonPattern answer).bind Release.ofText? = some release ↔ Tells answer release := by
  cases answer with
  | error e =>
      constructor
      · intro h
        cases h
      · rintro ⟨r, -, -, -, heq, -⟩
        cases heq
  | ok r =>
      rw [found]
      split
      case isTrue hsucceeded =>
        rw [Captured.firstGroup?_eq ends_python, Option.bind_eq_some_iff]
        constructor
        · rintro ⟨version, hversion, hread⟩
          obtain ⟨x, hx, rfl⟩ := Option.map_eq_some_iff.mp hversion
          obtain ⟨text, htext, hfirst⟩ := searched_iff.mp hx
          exact ⟨r, text, x.1, x.2, rfl, hsucceeded, htext, hfirst, (ofText?_found hfirst).mp hread⟩
        · rintro ⟨r', text, major, minor, heq, -, htext, hfirst, hread⟩
          obtain rfl := Except.ok.inj heq
          rw [searched_iff (x := (major, minor)) |>.mpr ⟨text, htext, hfirst⟩]
          exact ⟨_, rfl, (ofText?_found (x := (major, minor)) hfirst).mpr hread⟩
      case isFalse hfailed =>
        constructor
        · intro h
          cases h
        · rintro ⟨r', -, -, -, heq, hsucceeded, -⟩
          obtain rfl := Except.ok.inj heq
          exact absurd hsucceeded hfailed

/-- A number without a dot behind it is passed over, on standard error too. -/
example : (found pythonPattern (.ok (.success "Python 3\n" "Python 3\nPython 3.10.4\n"))).bind
    Release.ofText? = some ⟨3, 10⟩ := by decide +kernel

end ToolVersion

/-! ## §6. The gate. -/

namespace Sequence

/-- The failure for a release that is too old. -/
def tooOld (python : String) (release : ToolVersion.Release) : Failure :=
  .missingPrerequisite "python"
    (python ++ " is Python " ++ toString release.major ++ "." ++ toString release.minor
      ++ "; Python 3.8 or newer is required")

/-- The failure for an interpreter that tells no release. -/
def tellsNothing (python : String) : Failure :=
  .missingPrerequisite "python"
    ("Could not run '" ++ python ++ " --version'. Install Python 3.8+ or pass --python")

/-- Is the release 3.8 or a later one, number by number? -/
def Supported (release : ToolVersion.Release) : Prop :=
  3 < release.major ∨ release.major = 3 ∧ 8 ≤ release.minor

/-- **Being recent enough**, in numbers. -/
theorem atLeast_oldest_iff {release : ToolVersion.Release} :
    release.atLeast oldestPython = true ↔ Supported release := by
  unfold ToolVersion.Release.atLeast oldestPython Supported
  rw [Bool.or_eq_true, Bool.and_eq_true, decide_eq_true_eq, decide_eq_true_eq, beq_iff_eq]
  dsimp only
  omega

/-- What the gate does with the release that was found. -/
def judge (python : String) : Option ToolVersion.Release → Procedure Unit
  | some release =>
      if release.atLeast oldestPython then
        log .debug .sequence (python ++ " is Python " ++ release.text)
      else .fail (tooOld python release)
  | none => .fail (tellsNothing python)

/-- The gate is one question, and then what is made of the answer. -/
theorem checkPython_eq (ctx : Context) :
    checkPython ctx
      = (ToolVersion.ask (ToolVersion.question ctx.settings.python) ToolVersion.pythonPattern).bind
          fun version => judge ctx.settings.python (version.bind ToolVersion.Release.ofText?) := by
  unfold checkPython ToolVersion.python
  rw [bind_eq, bind_eq, bind_assoc]
  congr 1
  funext version
  show Procedure.bind (.done _) _ = _
  rw [Procedure.bind]
  cases version.bind ToolVersion.Release.ofText? with
  | none =>
      show Procedure.fail _ = Procedure.fail _
      simp only [tellsNothing, String.append_assoc]
      rfl
  | some release =>
      show (if release.atLeast oldestPython then _ else Procedure.fail _) = _
      simp only [judge, tooOld, ToolVersion.Release.text, String.append_assoc]
      rfl

/-- The gate opens for a supported release and for nothing else. -/
theorem leads_judge {python : String} {found : Option ToolVersion.Release} {E : Account}
    {r : Except Failure Unit} (h : (judge python found).Leads E r) :
    E.runnerCalls = []
      ∧ (r = .ok () ↔ ∃ release, found = some release ∧ Supported release)
      ∧ (∀ release, found = some release → ¬ Supported release → r = .error (tooOld python release))
      ∧ (found = none → r = .error (tellsNothing python)) := by
  cases found with
  | none =>
      obtain ⟨rfl, rfl⟩ := leads_fail.mp h
      refine ⟨rfl, ⟨fun hok => ?_, fun ⟨_, hfound, _⟩ => ?_⟩, fun _ hfound => ?_, fun _ => rfl⟩
      · cases hok
      · cases hfound
      · cases hfound
  | some release =>
      change (if release.atLeast oldestPython then _ else _ : Procedure Unit).Leads E r at h
      by_cases hsupported : Supported release
      · rw [if_pos (atLeast_oldest_iff.mpr hsupported)] at h
        obtain ⟨x, F, rfl, hend⟩ := leads_ask.mp h
        obtain ⟨rfl, rfl⟩ := leads_done.mp hend
        refine ⟨rfl, ⟨fun _ => ⟨release, rfl, hsupported⟩, fun _ => rfl⟩, ?_, fun hfound => ?_⟩
        · rintro _ ⟨⟩ hnot
          exact absurd hsupported hnot
        · cases hfound
      · rw [if_neg (fun hle => hsupported (atLeast_oldest_iff.mp hle))] at h
        obtain ⟨rfl, rfl⟩ := leads_fail.mp h
        refine ⟨rfl, ⟨fun hok => ?_, ?_⟩, ?_, fun hfound => ?_⟩
        · cases hok
        · rintro ⟨_, ⟨⟩, hyes⟩
          exact absurd hyes hsupported
        · rintro _ ⟨⟩ -
          rfl
        · cases hfound

open ToolVersion in
/-- **The gate asks once**, and what it does is decided by the answer. -/
theorem leads_checkPython {ctx : Context} {E : Account} {r : Except Failure Unit}
    (h : (checkPython ctx).Leads E r) :
    ∃ (answer : Except Failure Captured) (F : Account),
      E = ⟨.capture (question ctx.settings.python), answer⟩ :: F ∧ F.runnerCalls = []
        ∧ (r = .ok () ↔ ∃ release, Tells answer release ∧ Supported release)
        ∧ (∀ release, Tells answer release → ¬ Supported release →
            r = .error (tooOld ctx.settings.python release))
        ∧ ((¬ ∃ release, Tells answer release) → r = .error (tellsNothing ctx.settings.python)) := by
  rw [checkPython_eq] at h
  rcases leads_bind.mp h with ⟨e, hask, -⟩ | ⟨version, E₁, E₂, rfl, hask, hjudge⟩
  · -- The question itself never fails.
    obtain ⟨_, _, _, hresult, _⟩ := leads_ask_version hask
    cases hresult
  obtain ⟨answer, F, rfl, hresult, hF⟩ := leads_ask_version hask
  obtain rfl := Except.ok.inj hresult
  obtain ⟨hE₂, hok, hold, hnothing⟩ := leads_judge hjudge
  refine ⟨answer, F ++ E₂, rfl, ?_, ?_, ?_, ?_⟩
  · rw [Account.runnerCalls_append, Account.runnerCalls_of_quiet hF, hE₂]
    rfl
  · simpa only [found_release_iff] using hok
  · intro release htells
    exact hold release (found_release_iff.mpr htells)
  · intro hnone
    refine hnothing (Option.eq_none_iff_forall_ne_some.mpr fun release hfound => ?_)
    exact hnone ⟨release, found_release_iff.mp hfound⟩

/-- Where the gate stays closed, an installation ends with it. -/
theorem install_refused {σ : Type} {host : Host σ} {ctx : Context} {s t : σ} {e : Failure}
    (hreal : ctx.config.dryRun = false) (hopening : ((opening ctx).perform host t).2 = s)
    (h : ((checkPython ctx).perform host s).1 = .error e) :
    ((install ctx).perform host t).1 = .error e
      ∧ ((install ctx).account host t).runnerCalls = ((checkPython ctx).account host s).runnerCalls := by
  have hgate : interpreter ctx = checkPython ctx := by
    unfold interpreter
    rw [hreal]
    rfl
  have hstart : (opening ctx).perform host t = (.ok (), s) := by
    rw [← hopening]
    rfl
  have hend : (checkPython ctx).perform host s = (.error e, ((checkPython ctx).perform host s).2) := by
    rw [← h]
  rw [install_eq, hgate, perform_bind, account_bind, hstart]
  dsimp only
  rw [perform_bind, account_bind, hend]
  refine ⟨rfl, ?_⟩
  rw [Account.runnerCalls_append, Account.runnerCalls_append]
  exact List.append_nil _

open ToolVersion in
/-- **The gate for the interpreter.**  It opens exactly for an answer that tells
a release from 3.8 on; every other answer is a missing prerequisite, and a run
that is not dry makes no call after the question. -/
theorem checkPython_gate {σ : Type} (host : Host σ) (ctx : Context) (s : σ) :
    let python := ctx.settings.python
    let answer := (host (.capture (question python)) s).1
    let result := ((checkPython ctx).perform host s).1
    (result = .ok () ↔ ∃ release, Tells answer release ∧ Supported release)
      ∧ (∀ release, Tells answer release → ¬ Supported release →
          result = .error (tooOld python release))
      ∧ ((¬ ∃ release, Tells answer release) → result = .error (tellsNothing python))
      ∧ ((checkPython ctx).account host s).runnerCalls = [.capture (question python)]
      ∧ ∀ t e, ctx.config.dryRun = false → ((opening ctx).perform host t).2 = s →
          result = .error e →
            ((install ctx).perform host t).1 = .error e
              ∧ ((install ctx).account host t).runnerCalls = [.capture (question python)] := by
  intro python answer result
  obtain ⟨answer', F, heq, hF, hok, hold, hnothing⟩ :=
    leads_checkPython (leads_account host (checkPython ctx) s)
  -- The question is the first request, so that it is answered in the first state.
  obtain rfl : answer' = answer := head_account (p := checkPython ctx) (by rw [heq]; rfl)
  have hcalls : ((checkPython ctx).account host s).runnerCalls
      = [.capture (question ctx.settings.python)] := by
    rw [heq, Account.runnerCalls_cons, hF]
    rfl
  refine ⟨hok, hold, hnothing, hcalls, fun t e hreal hopening herror => ?_⟩
  obtain ⟨hresult, hrest⟩ := install_refused hreal hopening herror
  exact ⟨hresult, hrest.trans hcalls⟩

open ToolVersion in
theorem checkPython_gate_old :
    let ctx : Context := default
    let recorder : Recorder := ({} : Recorder).withOutput "python3" "Python 3.7.17\n"
    ((install ctx).perform Recorder.host recorder).1 = .error (tooOld "python3" ⟨3, 7⟩)
      ∧ ((install ctx).account Recorder.host recorder).runnerCalls
        = [.capture (question "python3")] := by
  exact (checkPython_gate Recorder.host default _).2.2.2.2 _ _ rfl rfl (by decide +kernel)

end Sequence

end Provision
