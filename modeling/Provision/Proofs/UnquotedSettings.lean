/-
  Provision.Proofs.UnquotedSettings
  ─────────────────────────────────
  **TEXTS WITHOUT QUOTES ARE TAKEN AS THEY ARE.**

  A text of letters, digits and some signs may stand in a settings file
  without quotes, and so may be spelled like a number, a truth value or
  nothing.  Where the field is a text, nothing is made of it: the field is the
  text as it is spelled, digit for digit.  The keys may come in any order, and
  other fields may be written with quotes.

  Main results:

    `foldl_get`            what the one entry of a key gives to its field
    `Entry.puts`           what an entry does to the settings
    `loadFile_unquoted`    each text of a settings file is its field
-/
import Provision.Proofs.SettingsTexts

namespace Provision

open Provision.Text
open Provision.Yaml (Decodes IsKey IsTextOf Pair Puts Scalar Value isPlainChar
  isPrintableAscii pairLines)

/-! ## §1. Texts with and without quotes. -/

/-- A text as it is spelled in a settings file. -/
inductive Spelled where
  | quoted (v : String)
  | bare (v : String)
  deriving DecidableEq, Repr

/-- The texts that may stand without quotes: letters, digits and the signs
of versions and addresses, with no hyphen in front. -/
structure IsBare (v : String) : Prop where
  nonempty : v ≠ ""
  hyphen : v.toList.head? ≠ some '-'
  plain : ∀ c ∈ v.toList, isPlainChar c = true

instance (v : String) : Decidable (IsBare v) :=
  decidable_of_iff (v ≠ "" ∧ v.toList.head? ≠ some '-' ∧ v.toList.all isPlainChar = true)
    ⟨fun h => ⟨h.1, h.2.1, List.all_eq_true.mp h.2.2⟩,
      fun h => ⟨h.nonempty, h.hyphen, List.all_eq_true.mpr h.plain⟩⟩

/-- A bare text is a word of a plain scalar; its first character is no hyphen,
so it begins no item. -/
theorem IsBare.isWord {v : String} (h : IsBare v) : Yaml.IsWord v.toList := by
  refine ⟨fun hnil => h.nonempty (String.toList_eq_nil_iff.mp hnil), fun hhyphen => ?_, h.plain⟩
  exact h.hyphen (by rw [hhyphen]; rfl)

namespace Spelled

def text : Spelled → String
  | .quoted v => v
  | .bare v => v

def scalar : Spelled → Scalar
  | .quoted v => .quoted v.toList
  | .bare v => .plain v.toList

/-- Can the text be spelled so? -/
def IsProper : Spelled → Prop
  | .quoted v => ∀ c ∈ v.toList, isPrintableAscii c = true
  | .bare v => IsBare v

instance (x : Spelled) : Decidable x.IsProper :=
  match x with
  | .quoted v => inferInstanceAs (Decidable (Datum.text v).IsPrintable)
  | .bare v => inferInstanceAs (Decidable (IsBare v))

/-- **What is spelled properly can be read again.** -/
theorem legible_scalar {x : Spelled} (h : x.IsProper) : x.scalar.Legible := by
  cases x with
  | quoted v => exact h
  | bare v => exact h.isWord

@[simp] theorem text_scalar (x : Spelled) : x.scalar.text = x.text := by
  cases x <;> exact String.ofList_toList

/-- **A text is decoded as it is spelled**, whatever it reads as elsewhere. -/
theorem decodes_scalar (x : Spelled) : Decodes Yaml.text (Value.scalar x.scalar).nodes x.text := by
  have hdecodes := Yaml.decodes_text x.scalar
  rw [text_scalar] at hdecodes
  exact hdecodes

/-- A list of texts is decoded item by item, each as it is spelled. -/
theorem decodes_scalars (column : Nat) (xs : List Spelled) :
    Decodes (Yaml.list Yaml.text) (Value.items column (xs.map scalar)).nodes (xs.map text) := by
  have hdecodes := Yaml.decodes_list column (xs.map scalar)
  rw [List.map_map, show Scalar.text ∘ scalar = text from funext text_scalar] at hdecodes
  exact hdecodes

end Spelled

/-! ## §2. The field of a key. -/

section Fields

variable {σ α β : Type} {key : β → String} {put : β → σ → σ} (get : σ → α)

/-- Entries of other keys leave a field as it is. -/
theorem foldl_keeps {k : String} (hother : ∀ c s, key c ≠ k → get (put c s) = get s) {bs : List β}
    (h : ∀ c ∈ bs, key c ≠ k) (s : σ) : get (bs.foldl (fun s b => put b s) s) = get s := by
  induction bs generalizing s with
  | nil => rfl
  | cons c bs ih =>
      rw [List.foldl_cons, ih (fun d hd => h d (List.mem_cons_of_mem _ hd)),
        hother c s (h c (List.mem_cons_self ..))]

/-- **The one entry of a key gives its field.** -/
theorem foldl_get {b : β} {a : α} (hself : ∀ s, get (put b s) = a)
    (hother : ∀ c s, key c ≠ key b → get (put c s) = get s) {bs : List β}
    (hkeys : (bs.map key).Nodup) (hb : b ∈ bs) (s : σ) :
    get (bs.foldl (fun s b => put b s) s) = a := by
  -- On the entries: those before the one of the key are overwritten by it, those after
  -- it have other keys.
  induction bs generalizing s with
  | nil => cases hb
  | cons c bs ih =>
      rw [List.map_cons, List.nodup_cons] at hkeys
      rw [List.foldl_cons]
      rcases List.mem_cons.mp hb with rfl | hb
      · -- No later entry has the key.
        rw [foldl_keeps get hother (fun d hd heq => hkeys.1 (heq ▸ List.mem_map_of_mem hd)), hself]
      · exact ih hkeys.2 hb _

end Fields

/-! ## §3. The native library. -/

namespace NativeLibrary

/-- The fields of a native library. -/
inductive TextField where
  | name
  | version
  | urlTemplate
  deriving DecidableEq, Repr

namespace TextField

def key : TextField → String
  | .name => "name"
  | .version => "version"
  | .urlTemplate => "url_template"

def get : TextField → NativeLibrary → String
  | .name, l => l.name
  | .version, l => l.version
  | .urlTemplate, l => l.urlTemplate

def choice : TextField → String → Choice
  | .name, v => .name v
  | .version, v => .version v
  | .urlTemplate, v => .urlTemplate v

theorem key_known (f : TextField) : f.key ∈ Choice.knownKeys := by
  cases f <;> decide

/-- The fields have different keys. -/
theorem key_injective {f g : TextField} (h : f.key = g.key) : f = g := by
  cases f <;> cases g <;> first | rfl | exact absurd h (by decide)

theorem key_choice (f : TextField) (v : String) : (f.choice v).key = f.key := by
  cases f <;> rfl

/-- A choice of the field gives the field. -/
theorem get_put (f : TextField) (v : String) (l : NativeLibrary) :
    f.get ((f.choice v).put l) = v := by
  cases f <;> rfl

/-- A choice of another key keeps the field. -/
theorem get_put_other (f : TextField) (c : Choice) (l : NativeLibrary) (h : c.key ≠ f.key) :
    f.get (c.put l) = f.get l := by
  cases f <;> cases c <;> first | rfl | exact absurd rfl h

end TextField

/-- A key of a native library with its value as it is spelled. -/
inductive Entry where
  | text (f : TextField) (x : Spelled)
  | other (key : String) (x : Spelled)
  deriving DecidableEq, Repr

namespace Entry

def spelled : Entry → Spelled
  | .text _ x => x
  | .other _ x => x

/-- What is chosen by the entry. -/
def choice : Entry → Choice
  | .text f x => f.choice x.text
  | .other key x => .other key (.text x.text)

def key : Entry → String
  | .text f _ => f.key
  | .other key _ => key

def put (e : Entry) : NativeLibrary → NativeLibrary := e.choice.put

def pair (e : Entry) : Pair := ⟨e.key.toList, .scalar e.spelled.scalar⟩

theorem key_choice (e : Entry) : e.choice.key = e.key := by
  cases e with
  | text f x => exact f.key_choice x.text
  | other key x => rfl

/-- Can the entry be written so?  Its key is a field's or a foreign one. -/
def IsProper : Entry → Prop
  | .text _ x => x.IsProper
  | .other key x => IsForeign Choice.knownKeys key ∧ key.toList.length ≤ 1024 ∧ x.IsProper

instance (e : Entry) : Decidable e.IsProper :=
  match e with
  | .text _ x => inferInstanceAs (Decidable x.IsProper)
  | .other key x => inferInstanceAs
      (Decidable (IsForeign Choice.knownKeys key ∧ key.toList.length ≤ 1024 ∧ x.IsProper))

variable {e : Entry} (h : e.IsProper)
include h

/-- The key of an entry can be written. -/
theorem isKey_key : IsKey e.key.toList := by
  cases e with
  | text f x => exact Choice.isKey_known _ f.key_known
  | other key x => exact isKey_foreign h.1

/-- The text of an entry can be written. -/
theorem legible_spelled : e.spelled.scalar.Legible := by
  cases e with
  | text f x => exact Spelled.legible_scalar h
  | other key x => exact Spelled.legible_scalar h.2.2

/-- A key that a reader will look for: no longer than 1024 characters. -/
theorem length_key : e.key.toList.length ≤ 1024 := by
  cases e with
  | text f x =>
      have hshort : ∀ k ∈ Choice.knownKeys, k.toList.length ≤ 1024 := by decide
      exact hshort _ f.key_known
  | other key x => exact h.2.1

/-- **What an entry does to a native library** is to put its text into its
field, if it has one. -/
theorem puts : Puts fields e.pair e.put := by
  cases e with
  | text f x =>
      cases f
      · exact Yaml.puts_field (f := fun v l => { l with name := v }) rfl x.decodes_scalar rfl
      · exact Yaml.puts_field (f := fun v l => { l with version := v }) rfl x.decodes_scalar rfl
      · exact Yaml.puts_field (f := fun v l => { l with urlTemplate := v }) rfl x.decodes_scalar rfl
  | other key x => exact Yaml.puts_unknown x.scalar (Choice.fields_foreign h.1.2.2)

end Entry

/-- What entries make of a native library. -/
def ofEntries (es : List Entry) : NativeLibrary := es.foldl (fun l e => e.put l) {}

/-- An entry of another key keeps the field. -/
theorem get_entry_other (f : TextField) (e : Entry) (l : NativeLibrary) (h : e.key ≠ f.key) :
    f.get (e.put l) = f.get l := f.get_put_other e.choice l (e.key_choice ▸ h)

/-- The text of an entry is its field. -/
theorem get_ofEntries {es : List Entry} (hkeys : (es.map Entry.key).Nodup) {f : TextField}
    {x : Spelled} (hx : .text f x ∈ es) : f.get (ofEntries es) = x.text :=
  foldl_get f.get (b := .text f x) (f.get_put x.text) (get_entry_other f) hkeys hx {}

/-- A field without an entry keeps its default. -/
theorem get_ofEntries_default {es : List Entry} {f : TextField} (h : ∀ x, .text f x ∉ es)
    (hproper : ∀ e ∈ es, e.IsProper) : f.get (ofEntries es) = f.get {} := by
  have hother : ∀ e ∈ es, e.key ≠ f.key := by
    intro e he heq
    cases e with
    | text g x => exact h x (TextField.key_injective heq ▸ he)
    | other key x =>
        have hkey : key = f.key := heq
        exact (hproper _ he).1.2.2 (hkey ▸ f.key_known)
  exact foldl_keeps f.get (get_entry_other f) hother {}

/-- **What the entries make of a native library.** -/
theorem decodes_entries (column : Nat) {es : List Entry} (h : ∀ e ∈ es, e.IsProper)
    (hkeys : (es.map Entry.key).Nodup) :
    Decodes decoder
      (Value.parts column (es.map fun e => (e.key.toList, e.spelled.scalar))).nodes
      (ofEntries es) :=
  Yaml.decodes_parts "NativeLibrary" ({} : NativeLibrary) column
    (fun e he => Entry.puts (h e he)) hkeys

end NativeLibrary

/-! ## §4. The settings. -/

namespace Settings

/-- The fields of the settings that are texts. -/
inductive TextField where
  | python
  | nodesourceUrl
  | nightlyIndexUrl
  | macNpmScript
  deriving DecidableEq, Repr

namespace TextField

def key : TextField → String
  | .python => "python"
  | .nodesourceUrl => "nodesource_url"
  | .nightlyIndexUrl => "nightly_index_url"
  | .macNpmScript => "mac_npm_script"

def get : TextField → Settings → String
  | .python, s => s.python
  | .nodesourceUrl, s => s.nodesourceUrl
  | .nightlyIndexUrl, s => s.nightlyIndexUrl
  | .macNpmScript, s => s.macNpmScript

def choice : TextField → String → Choice
  | .python, v => .python v
  | .nodesourceUrl, v => .nodesourceUrl v
  | .nightlyIndexUrl, v => .nightlyIndexUrl v
  | .macNpmScript, v => .macNpmScript v

theorem key_known (f : TextField) : f.key ∈ Choice.knownKeys := by
  cases f <;> decide

theorem key_choice (f : TextField) (v : String) : (f.choice v).key = f.key := by
  cases f <;> rfl

/-- A choice of the field gives the field. -/
theorem get_put (f : TextField) (v : String) (s : Settings) : f.get ((f.choice v).put s) = v := by
  cases f <;> rfl

/-- A choice of another key keeps the field. -/
theorem get_put_other (f : TextField) (c : Choice) (s : Settings) (h : c.key ≠ f.key) :
    f.get (c.put s) = f.get s := by
  cases f <;> cases c <;> first | rfl | exact absurd rfl h

end TextField

/-- A key of a settings file with its value as it is spelled. -/
inductive Entry where
  | text (f : TextField) (x : Spelled)
  | jdkVersion (n : UInt32)
  | nodeMajor (n : UInt32)
  | upgradePip (b : Bool)
  /-- Items at a column. -/
  | npmPackages (column : Nat) (xs : List Spelled)
  /-- Parts at a column. -/
  | nativeLibrary (column : Nat) (parts : List NativeLibrary.Entry)
  | other (key : String) (x : Spelled)
  deriving DecidableEq, Repr

namespace Entry

/-- What is chosen by the entry. -/
def choice : Entry → Choice
  | .text f x => f.choice x.text
  | .jdkVersion n => .jdkVersion n
  | .nodeMajor n => .nodeMajor n
  | .upgradePip b => .upgradePip b
  | .npmPackages column xs => .npmPackages column (xs.map Spelled.text)
  | .nativeLibrary column parts => .nativeLibrary column (parts.map NativeLibrary.Entry.choice)
  | .other key x => .other key (.text x.text)

def key : Entry → String
  | .text f _ => f.key
  | e => e.choice.key

def put (e : Entry) : Settings → Settings := e.choice.put

theorem key_choice (e : Entry) : e.choice.key = e.key := by
  cases e with
  | text f x => exact f.key_choice x.text
  | _ => rfl

def value : Entry → Value
  | .text _ x => .scalar x.scalar
  | .npmPackages column xs => .items column (xs.map Spelled.scalar)
  | .nativeLibrary column parts =>
      .parts column (parts.map fun p => (p.key.toList, p.spelled.scalar))
  | .other _ x => .scalar x.scalar
  | e => e.choice.value

def pair (e : Entry) : Pair := ⟨e.key.toList, e.value⟩

/-- Can the entry be written so?  Its key is a field's or a foreign one, and the
parts of a native library stand further to the right. -/
def IsProper : Entry → Prop
  | .text _ x => x.IsProper
  | .npmPackages _ xs => ∀ x ∈ xs, x.IsProper
  | .nativeLibrary column parts =>
      0 < column ∧ parts ≠ [] ∧ (parts.map NativeLibrary.Entry.key).Nodup ∧ ∀ p ∈ parts, p.IsProper
  | .other key x => IsForeign Choice.knownKeys key ∧ key.toList.length ≤ 1024 ∧ x.IsProper
  | .jdkVersion _ => True
  | .nodeMajor _ => True
  | .upgradePip _ => True

instance (e : Entry) : Decidable e.IsProper :=
  match e with
  | .text _ x => inferInstanceAs (Decidable x.IsProper)
  | .npmPackages _ xs => inferInstanceAs (Decidable (∀ x ∈ xs, x.IsProper))
  | .nativeLibrary column parts => inferInstanceAs (Decidable
      (0 < column ∧ parts ≠ [] ∧ (parts.map NativeLibrary.Entry.key).Nodup
        ∧ ∀ p ∈ parts, p.IsProper))
  | .other key x => inferInstanceAs
      (Decidable (IsForeign Choice.knownKeys key ∧ key.toList.length ≤ 1024 ∧ x.IsProper))
  | .jdkVersion _ => isTrue trivial
  | .nodeMajor _ => isTrue trivial
  | .upgradePip _ => isTrue trivial

/-- The key is a foreign one, or one of the fields. -/
theorem key_mem_knownKeys (e : Entry) :
    e.key ∈ Choice.knownKeys ∨ ∃ key x, e = .other key x := by
  cases e with
  | other key x => exact .inr ⟨key, x, rfl⟩
  | text f x => exact .inl f.key_known
  | _ => exact .inl (by simp [key, choice, Choice.key, Choice.knownKeys])

variable {e : Entry} (h : e.IsProper)
include h

/-- **An entry can be written.** -/
theorem legible_pair : e.pair.Legible := by
  have hkey : IsKey e.key.toList := by
    rcases e.key_mem_knownKeys with hknown | ⟨key, x, rfl⟩
    · exact Choice.isKey_known _ hknown
    · exact isKey_foreign h.1
  refine ⟨hkey, ?_⟩
  cases e with
  | text f x => exact Spelled.legible_scalar h
  | jdkVersion n => exact Datum.legible_scalar (d := .number n) trivial
  | nodeMajor n => exact Datum.legible_scalar (d := .number n) trivial
  | upgradePip b => exact Datum.legible_scalar (d := .truth b) trivial
  | npmPackages column xs => exact List.forall_mem_map.mpr fun x hx => Spelled.legible_scalar (h x hx)
  | nativeLibrary column parts =>
      obtain ⟨hcolumn, hne, -, hparts⟩ := h
      refine ⟨hcolumn, fun hnil => hne (List.map_eq_nil_iff.mp hnil), List.forall_mem_map.mpr ?_⟩
      intro p hp
      exact ⟨NativeLibrary.Entry.isKey_key (hparts p hp),
        NativeLibrary.Entry.legible_spelled (hparts p hp)⟩
  | other key x => exact Spelled.legible_scalar h.2.2

/-- No key of an entry is too long to be looked for, nor that of a part. -/
theorem isShort_pair : e.pair.IsShort := by
  have hkey : e.key.toList.length ≤ 1024 := by
    rcases e.key_mem_knownKeys with hknown | ⟨key, x, rfl⟩
    · have hshort : ∀ k ∈ Choice.knownKeys, k.toList.length ≤ 1024 := by decide
      exact hshort _ hknown
    · exact h.2.1
  refine ⟨hkey, ?_⟩
  cases e with
  | nativeLibrary column parts =>
      exact List.forall_mem_map.mpr fun p hp => NativeLibrary.Entry.length_key (h.2.2.2 p hp)
  | _ => trivial

/-- **What an entry does to the settings.** -/
theorem puts : Puts fields e.pair e.put := by
  cases e with
  | text f x =>
      cases f
      · exact Yaml.puts_field (f := fun v s => { s with python := v }) rfl x.decodes_scalar rfl
      · exact Yaml.puts_field (f := fun v s => { s with nodesourceUrl := v }) rfl x.decodes_scalar rfl
      · exact Yaml.puts_field (f := fun v s => { s with nightlyIndexUrl := v }) rfl x.decodes_scalar
          rfl
      · exact Yaml.puts_field (f := fun v s => { s with macNpmScript := v }) rfl x.decodes_scalar rfl
  | jdkVersion n => exact Choice.puts (c := .jdkVersion n) trivial
  | nodeMajor n => exact Choice.puts (c := .nodeMajor n) trivial
  | upgradePip b => exact Choice.puts (c := .upgradePip b) trivial
  | npmPackages column xs =>
      exact Yaml.puts_field (f := fun v s => { s with npmPackages := v }) rfl
        (Spelled.decodes_scalars column xs) rfl
  | nativeLibrary column parts =>
      refine Yaml.puts_field (f := fun v s => { s with nativeLibrary := v }) rfl
        (NativeLibrary.decodes_entries column h.2.2.2 h.2.2.1) ?_
      funext s
      show { s with nativeLibrary := (parts.map NativeLibrary.Entry.choice).foldl _ {} } = _
      rw [List.foldl_map]
      rfl
  | other key x => exact Yaml.puts_unknown x.scalar (Choice.fields_foreign h.1.2.2)

end Entry

/-- What entries make of the settings. -/
def ofEntries (es : List Entry) : Settings := es.foldl (fun s e => e.put s) defaults

/-- An entry of another key keeps the field. -/
theorem get_entry_other (f : TextField) (e : Entry) (s : Settings) (h : e.key ≠ f.key) :
    f.get (e.put s) = f.get s := f.get_put_other e.choice s (e.key_choice ▸ h)

section Entries

variable {es : List Entry} (hkeys : (es.map Entry.key).Nodup)
include hkeys

/-- The text of an entry is its field. -/
theorem get_ofEntries {f : TextField} {x : Spelled} (hx : .text f x ∈ es) :
    f.get (ofEntries es) = x.text :=
  foldl_get f.get (b := .text f x) (f.get_put x.text) (get_entry_other f) hkeys hx defaults

/-- The items of a list are the npm packages, in their order. -/
theorem npmPackages_ofEntries {column : Nat} {xs : List Spelled}
    (hxs : .npmPackages column xs ∈ es) : (ofEntries es).npmPackages = xs.map Spelled.text := by
  have hother : ∀ (e : Entry) s, e.key ≠ "npm_packages" → (e.put s).npmPackages = s.npmPackages := by
    intro e s he
    cases e with
    | npmPackages column ys => exact absurd rfl he
    | text f y => cases f <;> rfl
    | _ => rfl
  exact foldl_get npmPackages (b := .npmPackages column xs) (fun _ => rfl) hother hkeys hxs defaults

/-- The parts of the native library make the native library. -/
theorem nativeLibrary_ofEntries {column : Nat} {parts : List NativeLibrary.Entry}
    (hparts : .nativeLibrary column parts ∈ es) :
    (ofEntries es).nativeLibrary = NativeLibrary.ofEntries parts := by
  have hself : ∀ s, ((Entry.nativeLibrary column parts).put s).nativeLibrary
      = NativeLibrary.ofEntries parts := by
    intro s
    show (parts.map NativeLibrary.Entry.choice).foldl _ ({} : NativeLibrary) = _
    rw [List.foldl_map]
    rfl
  have hother : ∀ (e : Entry) s, e.key ≠ "native_library" →
      (e.put s).nativeLibrary = s.nativeLibrary := by
    intro e s he
    cases e with
    | nativeLibrary column ps => exact absurd rfl he
    | text f y => cases f <;> rfl
    | _ => rfl
  exact foldl_get nativeLibrary (b := .nativeLibrary column parts) hself hother hkeys hparts defaults

end Entries

/-- **Each text of a settings file is its field.**  The file holds entries with
distinct keys, in any order, and texts without quotes among them; its last line
need not be ended.  Loading it succeeds, and every field and item is the text
that is spelled in the file, even where it reads as a number, a truth value or
nothing; so the directory of the library ends in the version of the file. -/
theorem loadFile_unquoted {es : List Entry} (hproper : ∀ e ∈ es, e.IsProper)
    (hkeys : (es.map Entry.key).Nodup) (hne : es ≠ []) {text : String}
    (htext : IsTextOf text.toList (pairLines (es.map Entry.pair))) (a : CommandLine.Arguments)
    (m : Machine) (path : Path) (s : MachineState)
    (hfile : s.files.read m.workingDirectory path = .ok (Utf8.encode text)) :
    ∃ v t, s.OnlyLogged t ∧ (loadFile path).perform (Run.layer a m.host) s = (.ok v, t)
      ∧ (∀ f x, .text f x ∈ es → f.get v = x.text)
      ∧ (∀ column xs, .npmPackages column xs ∈ es → v.npmPackages = xs.map Spelled.text)
      ∧ ∀ column parts, .nativeLibrary column parts ∈ es →
          (∀ f x, .text f x ∈ parts → f.get v.nativeLibrary = x.text)
          ∧ (∀ f : NativeLibrary.TextField, (∀ x, .text f x ∉ parts) →
              f.get v.nativeLibrary = f.get ({} : NativeLibrary))
          ∧ ∀ x, .text .version x ∈ parts →
              v.nativeLibrary.dirName = v.nativeLibrary.name ++ "-" ++ x.text := by
  have hnames : (es.map fun e => String.ofList e.pair.key) = es.map Entry.key :=
    List.map_congr_left fun e _ => String.ofList_toList
  obtain ⟨t, ht, hload⟩ := loadFile_pairs Entry.pair Entry.put htext
    (fun e he => Entry.legible_pair (hproper e he)) (fun e he => Entry.isShort_pair (hproper e he))
    (fun e he => Entry.puts (hproper e he)) (hnames ▸ hkeys) hne a m path s hfile
  refine ⟨ofEntries es, t, ht, hload, fun f x hx => get_ofEntries hkeys hx,
    fun column xs hxs => npmPackages_ofEntries hkeys hxs, fun column parts hparts => ?_⟩
  obtain ⟨-, -, hpartKeys, hpartsProper⟩ := hproper _ hparts
  rw [nativeLibrary_ofEntries hkeys hparts]
  have hfield : ∀ f x, .text f x ∈ parts → f.get (NativeLibrary.ofEntries parts) = x.text :=
    fun f x hx => NativeLibrary.get_ofEntries hpartKeys hx
  refine ⟨hfield, fun f hf => NativeLibrary.get_ofEntries_default hf hpartsProper, fun x hx => ?_⟩
  have hversion : (NativeLibrary.ofEntries parts).version = x.text := hfield .version x hx
  unfold NativeLibrary.dirName
  rw [hversion]

/-- Texts that read as numbers, as truth values and as nothing. -/
def lookalikes : List Entry :=
  [.text .python (.bare "3.10"),
    .nativeLibrary 2 [.text .version (.bare "1.10"), .other "pinned" (.bare "true")],
    .npmPackages 0 [.bare "0x10", .bare "1e3", .bare "true", .bare "~"]]

/-- Their file, the last line of which is not ended. -/
def lookalikesText : String :=
  "python: 3.10\nnative_library:\n  version: 1.10\n  pinned: true\nnpm_packages:\n"
    ++ "- 0x10\n- 1e3\n- true\n- ~"

/-- A machine with the file. -/
def lookalikesMachine : MachineState where
  files :=
    { entries :=
        [(["etc"], .directory 0o755),
          (["etc", "texts.yml"], .file (Utf8.encode lookalikesText) 0o644)] }

/-- The version of the library keeps its last digit. -/
theorem loadFile_unquoted_lookalikes :
    ∃ v t, lookalikesMachine.OnlyLogged t
      ∧ (loadFile ⟨"/etc/texts.yml"⟩).perform
          (Run.layer {} { workingDirectory := ["srv"] : Machine }.host) lookalikesMachine = (.ok v, t)
      ∧ v.python = "3.10" ∧ v.npmPackages = ["0x10", "1e3", "true", "~"]
      ∧ v.nativeLibrary.dirName = "libgit2-1.10" := by
  have htext : IsTextOf lookalikesText.toList (pairLines (lookalikes.map Entry.pair)) :=
    .inr (by decide)
  obtain ⟨v, t, ht, hload, hfields, hitems, hlibrary⟩ :=
    loadFile_unquoted (by decide) (by decide) (by decide) htext {}
      { workingDirectory := ["srv"] } ⟨"/etc/texts.yml"⟩ lookalikesMachine rfl
  obtain ⟨-, hdefault, hdirectory⟩ :=
    hlibrary 2 [.text .version (.bare "1.10"), .other "pinned" (.bare "true")] (by decide)
  have hname : v.nativeLibrary.name = "libgit2" :=
    hdefault .name fun x hx => by simp at hx
  refine ⟨v, t, ht, hload, hfields .python (.bare "3.10") (by decide),
    hitems 0 [.bare "0x10", .bare "1e3", .bare "true", .bare "~"] (by decide), ?_⟩
  rw [hdirectory (.bare "1.10") (by decide), hname]
  rfl

end Settings

end Provision
