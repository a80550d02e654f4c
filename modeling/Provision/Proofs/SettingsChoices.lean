/-
  Provision.Proofs.SettingsChoices
  ────────────────────────────────
  **WHAT A KEY DOES TO THE SETTINGS.**

  A choice is one key of a settings file with its value.  It is written as a
  pair, and changes one field; a foreign key changes nothing.  The parts of a
  native library do the same to its own defaults.

  Main results:

    `Choice.legible_pair`     a proper choice can be written
    `Choice.puts`             what a key does to the settings
    `Choice.decodes_parts`    what the parts make of a native library
-/
import Provision.Proofs.DecodedPairs
import Provision.Settings.Decode

namespace Provision

open Provision.Yaml (Pair Scalar Value Puts Decodes IsKey isPrintableAscii isPlainChar digits
  truthWord)

/-! ## §1. Scalars and keys. -/

/-- A scalar in a settings file. -/
inductive Datum where
  | text (v : String)
  | number (n : UInt32)
  | truth (b : Bool)
  deriving DecidableEq, Repr

namespace Datum

/-- How it is written: a text between quotes, all else plain. -/
def scalar : Datum → Scalar
  | .text v => .quoted v.toList
  | .number n => .plain (digits n)
  | .truth b => .plain (truthWord b)

/-- Is it a text of printable characters, or no text? -/
def IsPrintable : Datum → Prop
  | .text v => ∀ c ∈ v.toList, isPrintableAscii c = true
  | _ => True

instance (d : Datum) : Decidable d.IsPrintable :=
  match d with
  | .text v => decidable_of_iff (v.toList.all isPrintableAscii = true) List.all_eq_true
  | .number _ => isTrue trivial
  | .truth _ => isTrue trivial

/-- Digits need no quotes. -/
theorem isPlainChar_digit {c : Char} (h : c.isDigit = true) : isPlainChar c = true := by
  unfold isPlainChar Char.isAlphanum
  rw [h, Bool.or_true, Bool.true_or]

/-- **Every printable scalar can be read again.** Numbers and truth values are
plain words; a text may hold anything printable, since it stands between quotes. -/
theorem legible_scalar {d : Datum} (h : d.IsPrintable) : d.scalar.Legible := by
  cases d with
  | text v => exact h
  | number n =>
      refine ⟨Nat.toDigits_ne_nil, fun hhyphen => ?_, fun c hc => ?_⟩
      · have hdigit := Yaml.isDigit_toDigits (n := n.toNat) '-'
        rw [show Nat.toDigits 10 n.toNat = ['-'] from hhyphen] at hdigit
        exact absurd (hdigit (List.mem_cons_self ..)) (by decide)
      · exact isPlainChar_digit (Yaml.isDigit_toDigits c hc)
  | truth b =>
      cases b
      · exact ⟨by decide, by decide, List.all_eq_true.mp (by decide)⟩
      · exact ⟨by decide, by decide, List.all_eq_true.mp (by decide)⟩

end Datum

/-- The keys that other programs may use. -/
def IsForeign (known : List String) (key : String) : Prop :=
  key ≠ "" ∧ (∀ c ∈ key.toList, c.isAlphanum = true) ∧ key ∉ known

instance (known : List String) (key : String) : Decidable (IsForeign known key) :=
  decidable_of_iff (key ≠ "" ∧ key.toList.all Char.isAlphanum = true ∧ key ∉ known)
    (and_congr_right' (and_congr_left' List.all_eq_true))

/-- A foreign key is a word of letters and digits, so it is neither a hyphen nor
a directive, and stands as a key. -/
theorem isKey_foreign {known : List String} {key : String} (h : IsForeign known key) :
    IsKey key.toList := by
  obtain ⟨hne, hchars, -⟩ := h
  have hword : ∀ c ∈ key.toList, isPlainChar c = true := by
    intro c hc
    unfold isPlainChar
    rw [hchars c hc, Bool.true_or]
  have hhead : ∀ c, key.toList.head? = some c → c.isAlphanum = true :=
    fun c hc => hchars c (List.mem_of_mem_head? hc)
  refine ⟨⟨fun hnil => hne (String.toList_eq_nil_iff.mp hnil), fun hhyphen => ?_, hword⟩,
    fun hhyphen => ?_, fun hdot => ?_⟩
  · exact absurd (hchars '-' (by rw [hhyphen]; exact List.mem_cons_self ..)) (by decide)
  · exact absurd (hhead '-' hhyphen) (by decide)
  · exact absurd (hhead '.' hdot) (by decide)

/-- What makes a word a key, in a form that evaluates. -/
theorem isKey_of {cs : List Char} (h : cs ≠ [] ∧ cs ≠ ['-'] ∧ cs.all isPlainChar = true
    ∧ cs.head? ≠ some '-' ∧ cs.head? ≠ some '.') : IsKey cs :=
  ⟨⟨h.1, h.2.1, List.all_eq_true.mp h.2.2.1⟩, h.2.2.2.1, h.2.2.2.2⟩

/-! ## §2. Choices. -/

/-- A key of a native library with its value. -/
inductive NativeLibrary.Choice where
  | name (v : String)
  | version (v : String)
  | urlTemplate (v : String)
  | other (key : String) (d : Datum)
  deriving DecidableEq, Repr

namespace NativeLibrary.Choice

def knownKeys : List String := ["name", "version", "url_template"]

def key : Choice → String
  | .name _ => "name"
  | .version _ => "version"
  | .urlTemplate _ => "url_template"
  | .other key _ => key

def datum : Choice → Datum
  | .name v => .text v
  | .version v => .text v
  | .urlTemplate v => .text v
  | .other _ d => d

/-- What the choice changes. -/
def put : Choice → NativeLibrary → NativeLibrary
  | .name v, l => { l with name := v }
  | .version v, l => { l with version := v }
  | .urlTemplate v, l => { l with urlTemplate := v }
  | .other _ _, l => l

def pair (c : Choice) : Pair := ⟨c.key.toList, .scalar c.datum.scalar⟩

end NativeLibrary.Choice

/-- A key of a settings file with its value. -/
inductive Settings.Choice where
  | python (v : String)
  | jdkVersion (n : UInt32)
  | nodeMajor (n : UInt32)
  | nodesourceUrl (v : String)
  | nightlyIndexUrl (v : String)
  | upgradePip (b : Bool)
  /-- Items at a column. -/
  | npmPackages (column : Nat) (vs : List String)
  | macNpmScript (v : String)
  /-- Parts at a column. -/
  | nativeLibrary (column : Nat) (parts : List NativeLibrary.Choice)
  | other (key : String) (d : Datum)
  deriving DecidableEq, Repr

namespace Settings.Choice

def knownKeys : List String :=
  ["python", "jdk_version", "node_major", "nodesource_url", "nightly_index_url", "upgrade_pip",
    "npm_packages", "mac_npm_script", "native_library"]

def key : Choice → String
  | .python _ => "python"
  | .jdkVersion _ => "jdk_version"
  | .nodeMajor _ => "node_major"
  | .nodesourceUrl _ => "nodesource_url"
  | .nightlyIndexUrl _ => "nightly_index_url"
  | .upgradePip _ => "upgrade_pip"
  | .npmPackages _ _ => "npm_packages"
  | .macNpmScript _ => "mac_npm_script"
  | .nativeLibrary _ _ => "native_library"
  | .other key _ => key

def value : Choice → Value
  | .python v => .scalar (Datum.text v).scalar
  | .jdkVersion n => .scalar (Datum.number n).scalar
  | .nodeMajor n => .scalar (Datum.number n).scalar
  | .nodesourceUrl v => .scalar (Datum.text v).scalar
  | .nightlyIndexUrl v => .scalar (Datum.text v).scalar
  | .upgradePip b => .scalar (Datum.truth b).scalar
  | .npmPackages column vs => .items column (vs.map fun v => (Datum.text v).scalar)
  | .macNpmScript v => .scalar (Datum.text v).scalar
  | .nativeLibrary column parts =>
      .parts column (parts.map fun p => (p.key.toList, p.datum.scalar))
  | .other _ d => .scalar d.scalar

/-- What the choice changes; a native library starts from its own defaults. -/
def put : Choice → Settings → Settings
  | .python v, s => { s with python := v }
  | .jdkVersion n, s => { s with jdkVersion := n }
  | .nodeMajor n, s => { s with nodeMajor := n }
  | .nodesourceUrl v, s => { s with nodesourceUrl := v }
  | .nightlyIndexUrl v, s => { s with nightlyIndexUrl := v }
  | .upgradePip b, s => { s with upgradePip := b }
  | .npmPackages _ vs, s => { s with npmPackages := vs }
  | .macNpmScript v, s => { s with macNpmScript := v }
  | .nativeLibrary _ parts, s => { s with nativeLibrary := parts.foldl (fun l p => p.put l) {} }
  | .other _ _, s => s

def pair (c : Choice) : Pair := ⟨c.key.toList, c.value⟩

end Settings.Choice

/-! ## §3. What a key does. -/

/-- A text between quotes is decoded to itself. -/
theorem decodes_quoted (v : String) :
    Decodes Yaml.text (Value.scalar (Datum.text v).scalar).nodes v := by
  have h := Yaml.decodes_text (Datum.text v).scalar
  rw [show (Datum.text v).scalar.text = v from String.ofList_toList] at h
  exact h

/-- A list of quoted texts is decoded to these texts, at whatever column its
items stand. -/
theorem decodes_texts (column : Nat) (vs : List String) :
    Decodes (Yaml.list Yaml.text) (Value.items column (vs.map fun v => (Datum.text v).scalar)).nodes
      vs := by
  have h := Yaml.decodes_list column (vs.map fun v => (Datum.text v).scalar)
  rw [List.map_map, show Scalar.text ∘ (fun v => (Datum.text v).scalar) = id from
    funext fun v => String.ofList_toList, List.map_id] at h
  exact h

namespace NativeLibrary.Choice

/-- A foreign key names no field of a native library. -/
theorem fields_foreign {key : String} (h : key ∉ knownKeys) : fields key = none := by
  unfold fields
  split
  · exact absurd (by decide) h
  · exact absurd (by decide) h
  · exact absurd (by decide) h
  · rfl

/-- A choice is one that can be made: its key is a field's or a foreign one. -/
def IsProper : Choice → Prop
  | .other key d => IsForeign knownKeys key ∧ d.IsPrintable
  | c => c.datum.IsPrintable

/-- The names of its fields are keys that can be written. -/
theorem isKey_known : ∀ k ∈ knownKeys, IsKey k.toList := by
  intro k hk
  refine isKey_of ?_
  revert k
  decide

/-- A proper part has a key that can be written. -/
theorem isKey_key {c : Choice} (h : c.IsProper) : IsKey c.key.toList := by
  cases c with
  | name v => exact isKey_known "name" (by decide)
  | version v => exact isKey_known "version" (by decide)
  | urlTemplate v => exact isKey_known "url_template" (by decide)
  | other key d => exact isKey_foreign h.1

/-- A proper part has a value that can be written. -/
theorem legible_datum {c : Choice} (h : c.IsProper) : c.datum.scalar.Legible := by
  cases c with
  | name v => exact Datum.legible_scalar h
  | version v => exact Datum.legible_scalar h
  | urlTemplate v => exact Datum.legible_scalar h
  | other key d => exact Datum.legible_scalar h.2

/-- **What a part does to a native library:** its key finds its field, and its
value is put there; a foreign key finds none. -/
theorem puts {c : Choice} (h : c.IsProper) : Puts fields c.pair c.put := by
  cases c with
  | name v =>
      exact Yaml.puts_field (f := fun v l => { l with name := v }) rfl (decodes_quoted v) rfl
  | version v =>
      exact Yaml.puts_field (f := fun v l => { l with version := v }) rfl (decodes_quoted v) rfl
  | urlTemplate v =>
      exact Yaml.puts_field (f := fun v l => { l with urlTemplate := v }) rfl (decodes_quoted v) rfl
  | other key d => exact Yaml.puts_unknown d.scalar (fields_foreign h.1.2.2)

/-- **What the parts make of a native library.** -/
theorem decodes_parts (column : Nat) {parts : List Choice} (h : ∀ p ∈ parts, p.IsProper)
    (hkeys : (parts.map key).Nodup) :
    Decodes NativeLibrary.decoder
      (Value.parts column (parts.map fun p => (p.key.toList, p.datum.scalar))).nodes
      (parts.foldl (fun l p => p.put l) {}) :=
  Yaml.decodes_parts "NativeLibrary" ({} : NativeLibrary) column (fun p hp => puts (h p hp)) hkeys

end NativeLibrary.Choice

namespace Settings.Choice

/-- A foreign key names no field of the settings. -/
theorem fields_foreign {key : String} (h : key ∉ knownKeys) : fields key = none := by
  unfold fields
  split
  · exact absurd (by decide) h
  · exact absurd (by decide) h
  · exact absurd (by decide) h
  · exact absurd (by decide) h
  · exact absurd (by decide) h
  · exact absurd (by decide) h
  · exact absurd (by decide) h
  · exact absurd (by decide) h
  · exact absurd (by decide) h
  · rfl

/-- A choice is one that can be made: its key is a field's or a foreign one,
and the parts of a native library stand further to the right. -/
def IsProper : Choice → Prop
  | .npmPackages _ vs => ∀ v ∈ vs, (Datum.text v).IsPrintable
  | .nativeLibrary column parts =>
      0 < column ∧ parts ≠ [] ∧ (parts.map NativeLibrary.Choice.key).Nodup ∧ ∀ p ∈ parts, p.IsProper
  | .python v => (Datum.text v).IsPrintable
  | .nodesourceUrl v => (Datum.text v).IsPrintable
  | .nightlyIndexUrl v => (Datum.text v).IsPrintable
  | .macNpmScript v => (Datum.text v).IsPrintable
  | .other key d => IsForeign knownKeys key ∧ d.IsPrintable
  | .jdkVersion _ => True
  | .nodeMajor _ => True
  | .upgradePip _ => True

theorem isKey_known : ∀ k ∈ knownKeys, IsKey k.toList := by
  intro k hk
  refine isKey_of ?_
  revert k
  decide

/-- Every choice but a foreign one has a known key. -/
theorem key_mem_knownKeys (c : Choice) : c.key ∈ knownKeys ∨ ∃ key d, c = .other key d := by
  cases c with
  | other key d => exact .inr ⟨key, d, rfl⟩
  | _ => exact .inl (by simp [key, knownKeys])

/-- A proper choice has a key that can be written. -/
theorem isKey_key {c : Choice} (h : c.IsProper) : IsKey c.key.toList := by
  -- A known key is one of nine fixed words; a foreign one is proper by what it is made
  -- of.
  rcases c.key_mem_knownKeys with hknown | ⟨key, d, rfl⟩
  · exact isKey_known _ hknown
  · exact isKey_foreign h.1

/-- **A proper choice can be written.** -/
theorem legible_pair {c : Choice} (h : c.IsProper) : c.pair.Legible := by
  refine ⟨isKey_key h, ?_⟩
  have hnumber : ∀ n, (Datum.number n).scalar.Legible := fun n => Datum.legible_scalar trivial
  have htext : ∀ v, (Datum.text v).IsPrintable → (Datum.text v).scalar.Legible :=
    fun v hv => Datum.legible_scalar hv
  cases c with
  | python v => exact htext v h
  | jdkVersion n => exact hnumber n
  | nodeMajor n => exact hnumber n
  | nodesourceUrl v => exact htext v h
  | nightlyIndexUrl v => exact htext v h
  | upgradePip b => exact Datum.legible_scalar (d := .truth b) trivial
  | npmPackages column vs =>
      intro v hv
      obtain ⟨u, hu, rfl⟩ := List.mem_map.mp hv
      exact htext u (h u hu)
  | macNpmScript v => exact htext v h
  | nativeLibrary column parts =>
      obtain ⟨hcolumn, hne, -, hparts⟩ := h
      refine ⟨hcolumn, fun hnil => hne (List.map_eq_nil_iff.mp hnil), fun p hp => ?_⟩
      obtain ⟨q, hq, rfl⟩ := List.mem_map.mp hp
      exact ⟨NativeLibrary.Choice.isKey_key (hparts q hq),
        NativeLibrary.Choice.legible_datum (hparts q hq)⟩
  | other key d => exact Datum.legible_scalar h.2

/-- **What a key does to the settings.** -/
theorem puts {c : Choice} (h : c.IsProper) : Puts fields c.pair c.put := by
  cases c with
  | python v =>
      exact Yaml.puts_field (f := fun v s => { s with python := v }) rfl (decodes_quoted v) rfl
  | jdkVersion n =>
      exact Yaml.puts_field (f := fun v s => { s with jdkVersion := v }) rfl (Yaml.decodes_word n) rfl
  | nodeMajor n =>
      exact Yaml.puts_field (f := fun v s => { s with nodeMajor := v }) rfl (Yaml.decodes_word n) rfl
  | nodesourceUrl v =>
      exact Yaml.puts_field (f := fun v s => { s with nodesourceUrl := v }) rfl (decodes_quoted v) rfl
  | nightlyIndexUrl v =>
      exact Yaml.puts_field (f := fun v s => { s with nightlyIndexUrl := v }) rfl (decodes_quoted v)
        rfl
  | upgradePip b =>
      exact Yaml.puts_field (f := fun v s => { s with upgradePip := v }) rfl (Yaml.decodes_bool b) rfl
  | npmPackages column vs =>
      exact Yaml.puts_field (f := fun v s => { s with npmPackages := v }) rfl
        (decodes_texts column vs) rfl
  | macNpmScript v =>
      exact Yaml.puts_field (f := fun v s => { s with macNpmScript := v }) rfl (decodes_quoted v) rfl
  | nativeLibrary column parts =>
      exact Yaml.puts_field (f := fun v s => { s with nativeLibrary := v }) rfl
        (NativeLibrary.Choice.decodes_parts column h.2.2.2 h.2.2.1) rfl
  | other key d => exact Yaml.puts_unknown d.scalar (fields_foreign h.1.2.2)

end Settings.Choice

end Provision
