/-
  Provision.Proofs.WrittenSettings
  ────────────────────────────────
  **A SETTINGS FILE OVERLAYS THE DEFAULTS.**

  Overrides choose some fields of the settings, and among them some fields of
  the native library.  A file writes overrides when it holds each chosen field
  once, in any order, and besides them only foreign keys.  Loading it gives
  the defaults with the chosen fields replaced, and so any settings at all
  when every field is chosen.

  Main results:

    `foldl_perm`             the order of the keys does not matter
    `foldl_choices`          the choices make of the defaults what is chosen
    `ofText_fileText`        the text of a file gives what is chosen
    `loadFile_overlays`      a settings file overlays the defaults
-/
import Provision.Proofs.AsciiTexts
import Provision.Proofs.EffectiveSettings
import Provision.Proofs.SettingsChoices

namespace Provision

open Provision.Text
open Provision.Yaml (IsKey ParsesAs isPlainChar isPrintableAscii pairLines)

/-! ## §1. Overrides. -/

/-- Some fields of a native library. -/
structure NativeLibrary.Overrides where
  name : Option String := none
  version : Option String := none
  urlTemplate : Option String := none
  deriving DecidableEq, Repr

namespace NativeLibrary.Overrides

/-- The default library with the chosen fields replaced. -/
def library (o : Overrides) : NativeLibrary where
  name := o.name.getD ({} : NativeLibrary).name
  version := o.version.getD ({} : NativeLibrary).version
  urlTemplate := o.urlTemplate.getD ({} : NativeLibrary).urlTemplate

/-- The fields under their keys, as they are written if they are chosen. -/
def fields (o : Overrides) : List (String × Option Choice) :=
  [("name", o.name.map .name), ("version", o.version.map .version),
    ("url_template", o.urlTemplate.map .urlTemplate)]

/-- The chosen fields. -/
def choices (o : Overrides) : List Choice := o.fields.filterMap Prod.snd

/-- Every field of a library. -/
def all (l : NativeLibrary) : Overrides := ⟨some l.name, some l.version, some l.urlTemplate⟩

end NativeLibrary.Overrides

/-- Some fields of the settings. -/
structure Settings.Overrides where
  python : Option String := none
  jdkVersion : Option UInt32 := none
  nodeMajor : Option UInt32 := none
  nodesourceUrl : Option String := none
  nightlyIndexUrl : Option String := none
  upgradePip : Option Bool := none
  npmPackages : Option (List String) := none
  macNpmScript : Option String := none
  nativeLibrary : NativeLibrary.Overrides := {}
  deriving DecidableEq, Repr

namespace Settings.Overrides

/-- The defaults with the chosen fields replaced. -/
def settings (o : Overrides) : Settings where
  python := o.python.getD defaults.python
  jdkVersion := o.jdkVersion.getD defaults.jdkVersion
  nodeMajor := o.nodeMajor.getD defaults.nodeMajor
  nodesourceUrl := o.nodesourceUrl.getD defaults.nodesourceUrl
  nightlyIndexUrl := o.nightlyIndexUrl.getD defaults.nightlyIndexUrl
  upgradePip := o.upgradePip.getD defaults.upgradePip
  npmPackages := o.npmPackages.getD defaults.npmPackages
  macNpmScript := o.macNpmScript.getD defaults.macNpmScript
  nativeLibrary := o.nativeLibrary.library

/-- The fields under their keys, as they are written if they are chosen: the
items at one column and the parts of the native library at another.  The
library is written if one of its fields is chosen. -/
def fields (o : Overrides) (itemColumn partColumn : Nat) (parts : List NativeLibrary.Choice) :
    List (String × Option Choice) :=
  [("python", o.python.map .python), ("jdk_version", o.jdkVersion.map .jdkVersion),
    ("node_major", o.nodeMajor.map .nodeMajor),
    ("nodesource_url", o.nodesourceUrl.map .nodesourceUrl),
    ("nightly_index_url", o.nightlyIndexUrl.map .nightlyIndexUrl),
    ("upgrade_pip", o.upgradePip.map .upgradePip),
    ("npm_packages", o.npmPackages.map (.npmPackages itemColumn)),
    ("mac_npm_script", o.macNpmScript.map .macNpmScript),
    ("native_library",
      if o.nativeLibrary = {} then none else some (.nativeLibrary partColumn parts))]

/-- The chosen fields. -/
def choices (o : Overrides) (itemColumn partColumn : Nat) (parts : List NativeLibrary.Choice) :
    List Choice :=
  (o.fields itemColumn partColumn parts).filterMap Prod.snd

/-- Every field of some settings. -/
def all (v : Settings) : Overrides :=
  ⟨some v.python, some v.jdkVersion, some v.nodeMajor, some v.nodesourceUrl,
    some v.nightlyIndexUrl, some v.upgradePip, some v.npmPackages, some v.macNpmScript,
    .all v.nativeLibrary⟩

theorem settings_all (v : Settings) : (all v).settings = v := rfl

end Settings.Overrides

/-! ## §2. Files. -/

/-- A foreign key with a scalar. -/
abbrev Foreign := String × Datum

/-- The scalars of a choice. -/
def Settings.Choice.data : Settings.Choice → List Datum
  | .python v => [.text v]
  | .jdkVersion n => [.number n]
  | .nodeMajor n => [.number n]
  | .nodesourceUrl v => [.text v]
  | .nightlyIndexUrl v => [.text v]
  | .upgradePip b => [.truth b]
  | .npmPackages _ vs => vs.map .text
  | .macNpmScript v => [.text v]
  | .nativeLibrary _ parts => parts.map NativeLibrary.Choice.datum
  | .other _ d => [d]

namespace Settings

/-- The keys of a file write these overrides: each chosen field once and
besides them distinct foreign keys, in any order, on both levels. -/
inductive Overrides.Writes (o : Overrides) : List Choice → Prop
  | intro {cs : List Choice} {itemColumn partColumn : Nat} {parts : List NativeLibrary.Choice}
      {foreign foreignParts : List Foreign}
      (order : cs.Perm (o.choices itemColumn partColumn parts ++ foreign.map fun f => .other f.1 f.2))
      (partOrder : parts.Perm (o.nativeLibrary.choices ++ foreignParts.map fun f => .other f.1 f.2))
      (deeper : 0 < partColumn)
      (distinct : (foreign.map Prod.fst).Nodup) (distinctParts : (foreignParts.map Prod.fst).Nodup)
      (unknown : ∀ f ∈ foreign, IsForeign Choice.knownKeys f.1)
      (unknownParts : ∀ f ∈ foreignParts, IsForeign NativeLibrary.Choice.knownKeys f.1)
      (printable : ∀ c ∈ cs, ∀ d ∈ c.data, d.IsPrintable) : Writes o cs

/-- The text of a file with these keys. -/
def fileText (cs : List Choice) : String :=
  String.ofList (Yaml.written (pairLines (cs.map Choice.pair)))

end Settings

/-! ## §3. The order of the keys. -/

/-- **The order of the keys does not matter**, if those of different keys
change different things. -/
theorem foldl_perm {σ β : Type} {key : β → String} {put : β → σ → σ}
    (hcomm : ∀ b c, key b ≠ key c → ∀ s, put c (put b s) = put b (put c s)) {bs cs : List β}
    (h : bs.Perm cs) (hkeys : (bs.map key).Nodup) (s : σ) :
    bs.foldl (fun s b => put b s) s = cs.foldl (fun s b => put b s) s := by
  induction h generalizing s with
  | nil => rfl
  | cons b _ ih => exact ih (List.nodup_cons.mp hkeys).2 (put b s)
  | swap b c bs =>
      have hne : key b ≠ key c := by
        intro heq
        rw [List.map_cons, List.map_cons, heq] at hkeys
        exact (List.nodup_cons.mp hkeys).1 (List.mem_cons_self ..)
      rw [List.foldl_cons, List.foldl_cons, List.foldl_cons, List.foldl_cons, hcomm b c hne]
  | trans h₁ _ ih₁ ih₂ => rw [ih₁ hkeys s, ih₂ ((h₁.map key).nodup_iff.mp hkeys) s]

/-- Foreign keys among others change nothing. -/
theorem foldl_foreign {σ β : Type} {put : β → σ → σ} {other : Foreign → β}
    (h : ∀ f s, put (other f) s = s) (fs : List Foreign) (s : σ) :
    (fs.map other).foldl (fun s b => put b s) s = s := by
  induction fs generalizing s with
  | nil => rfl
  | cons f fs ih =>
      rw [List.map_cons, List.foldl_cons, h]
      exact ih s

/-- Known keys in their own order and distinct foreign ones are all distinct. -/
theorem nodup_keys {β : Type} (key : β → String) {other : Foreign → β} {known : List String}
    (hother : ∀ f, key (other f) = f.1) (hknown : known.Nodup) {bs cs : List β} {fs : List Foreign}
    (horder : cs.Perm (bs ++ fs.map other)) (hsub : (bs.map key).Sublist known)
    (hdistinct : (fs.map Prod.fst).Nodup) (hforeign : ∀ f ∈ fs, IsForeign known f.1) :
    (cs.map key).Nodup := by
  have hnames : (fs.map other).map key = fs.map Prod.fst := by
    rw [List.map_map]
    exact List.map_congr_left fun f _ => hother f
  rw [(horder.map key).nodup_iff, List.map_append, hnames, List.nodup_append]
  refine ⟨hknown.sublist hsub, hdistinct, fun k hk k' hk' heq => ?_⟩
  obtain ⟨f, hf, rfl⟩ := List.mem_map.mp hk'
  exact (hforeign f hf).2.2 (heq ▸ hsub.subset hk)

/-- Values that stand under their own keys have these keys, where there are any. -/
theorem sublist_fields {β : Type} {key : β → String} {fields : List (String × Option β)}
    (h : ∀ e ∈ fields, ∀ b ∈ e.2, key b = e.1) :
    ((fields.filterMap Prod.snd).map key).Sublist (fields.map Prod.fst) := by
  induction fields with
  | nil => exact List.Sublist.refl _
  | cons e fields ih =>
      have hrest := ih fun e' he' => h e' (List.mem_cons_of_mem _ he')
      obtain ⟨k, x⟩ := e
      cases x with
      | none => exact hrest.cons k
      | some b =>
          have hb : key b = k := h _ (List.mem_cons_self ..) b rfl
          show (key b :: _).Sublist (k :: _)
          rw [hb]
          exact hrest.cons_cons k

/-- An optional choice has the key of its field. -/
theorem key_option {α β : Type} {key : β → String} {m : α → β} {k : String}
    (h : ∀ a, key (m a) = k) (x : Option α) : ∀ b ∈ x.map m, key b = k := by
  intro b hb
  obtain ⟨a, -, rfl⟩ := Option.map_eq_some_iff.mp hb
  exact h a

/-- What a field that may be chosen changes. -/
def putOption {σ β : Type} (put : β → σ → σ) (x : Option β) (s : σ) : σ := x.elim s fun b => put b s

/-- Fields are put one after the other, those that are not chosen left alone. -/
theorem foldl_fields {σ β : Type} (put : β → σ → σ) (fields : List (String × Option β)) (s : σ) :
    (fields.filterMap Prod.snd).foldl (fun s b => put b s) s
      = fields.foldl (fun s e => putOption put e.2 s) s := by
  induction fields generalizing s with
  | nil => rfl
  | cons e fields ih =>
      obtain ⟨k, x⟩ := e
      cases x with
      | none => exact ih s
      | some b => exact ih (put b s)

/-- A field is put, or stays as it is. -/
theorem putOption_map {σ α β : Type} {put : β → σ → σ} {m : α → β} {f : α → σ → σ} {g : σ → α}
    (hput : ∀ a s, put (m a) s = f a s) (hself : ∀ s, f (g s) s = s) (x : Option α) (s : σ) :
    putOption put (x.map m) s = f (x.getD (g s)) s := by
  cases x with
  | none => exact (hself s).symm
  | some a => exact hput a s

namespace NativeLibrary

/-- **The order of different keys does not matter.** -/
theorem Choice.put_comm (b c : Choice) (h : b.key ≠ c.key) (l : NativeLibrary) :
    c.put (b.put l) = b.put (c.put l) := by
  cases b <;> cases c <;> simp only [put] <;> exact absurd rfl h

theorem Overrides.key_fields (o : Overrides) : ∀ e ∈ o.fields, ∀ c ∈ e.2, Choice.key c = e.1 := by
  intro e he
  simp only [fields, List.mem_cons, List.not_mem_nil, or_false] at he
  rcases he with rfl | rfl | rfl <;> exact key_option (by intro v; rfl) _

/-- The chosen parts stand in the order of their keys. -/
theorem Overrides.keys_choices (o : Overrides) :
    (o.choices.map Choice.key).Sublist Choice.knownKeys :=
  sublist_fields o.key_fields

/-- The keys of parts are distinct. -/
theorem Overrides.nodup_parts {o : Overrides} {parts : List Choice} {foreign : List Foreign}
    (order : parts.Perm (o.choices ++ foreign.map fun f => .other f.1 f.2))
    (distinct : (foreign.map Prod.fst).Nodup)
    (unknown : ∀ f ∈ foreign, IsForeign Choice.knownKeys f.1) : (parts.map Choice.key).Nodup :=
  nodup_keys Choice.key (fun _ => rfl) (by decide) order o.keys_choices distinct unknown

theorem Overrides.eq_of_choices {o : Overrides} (h : o.choices = []) : o = {} := by
  obtain ⟨name, version, urlTemplate⟩ := o
  cases name <;> cases version <;> cases urlTemplate <;> first | rfl | cases h

/-- A foreign key is none of the fields. -/
theorem Overrides.not_mem_choices (o : Overrides) (key : String) (d : Datum) :
    Choice.other key d ∉ o.choices := by
  intro h
  obtain ⟨e, he, hvalue⟩ := List.mem_filterMap.mp h
  simp only [fields, List.mem_cons, List.not_mem_nil, or_false] at he
  rcases he with rfl | rfl | rfl
  all_goals
    obtain ⟨v, -, hv⟩ := Option.map_eq_some_iff.mp hvalue
    cases hv

/-- Each part can be written. -/
theorem Overrides.proper_part {o : Overrides} {parts : List Choice} {foreign : List Foreign}
    (order : parts.Perm (o.choices ++ foreign.map fun f => .other f.1 f.2))
    (unknown : ∀ f ∈ foreign, IsForeign Choice.knownKeys f.1) {p : Choice} (hp : p ∈ parts)
    (hdatum : p.datum.IsPrintable) : p.IsProper := by
  cases p with
  | name v => exact hdatum
  | version v => exact hdatum
  | urlTemplate v => exact hdatum
  | other key d =>
      rcases List.mem_append.mp (order.mem_iff.mp hp) with hchosen | hforeign
      · exact absurd hchosen (o.not_mem_choices key d)
      · obtain ⟨f, hf, heq⟩ := List.mem_map.mp hforeign
        cases heq
        exact ⟨unknown f hf, hdatum⟩

/-- Putting every chosen part makes the overridden library. -/
theorem Overrides.foldl_choices (o : Overrides) :
    o.choices.foldl (fun l c => c.put l) {} = o.library := by
  unfold choices
  rw [foldl_fields Choice.put]
  obtain ⟨name, version, urlTemplate⟩ := o
  cases name <;> cases version <;> cases urlTemplate <;> rfl

end NativeLibrary

namespace Settings

/-- **The order of different keys does not matter**, in the settings either. -/
theorem Choice.put_comm (b c : Choice) (h : b.key ≠ c.key) (s : Settings) :
    c.put (b.put s) = b.put (c.put s) := by
  cases b <;> cases c <;> simp only [put] <;> exact absurd rfl h

namespace Overrides

variable (o : Overrides) (itemColumn partColumn : Nat) (parts : List NativeLibrary.Choice)

theorem key_fields : ∀ e ∈ o.fields itemColumn partColumn parts, ∀ c ∈ e.2, Choice.key c = e.1 := by
  have hlibrary : ∀ c ∈ (if o.nativeLibrary = {} then none
      else some (Choice.nativeLibrary partColumn parts)), c.key = "native_library" := by
    intro c hc
    split at hc
    · cases hc
    · rw [← Option.some.inj hc]
      rfl
  intro e he
  simp only [fields, List.mem_cons, List.not_mem_nil, or_false] at he
  rcases he with rfl | rfl | rfl | rfl | rfl | rfl | rfl | rfl | rfl
  case inr.inr.inr.inr.inr.inr.inr.inr => exact hlibrary
  all_goals exact key_option (by intro v; rfl) _

theorem keys_choices :
    ((o.choices itemColumn partColumn parts).map Choice.key).Sublist Choice.knownKeys :=
  sublist_fields (key_fields o itemColumn partColumn parts)

/-- What is chosen is the native library with these parts, if one of them is
chosen, or another field; it is no foreign key. -/
theorem mem_choices {o : Overrides} {itemColumn partColumn : Nat}
    {parts : List NativeLibrary.Choice} {c : Choice}
    (h : c ∈ o.choices itemColumn partColumn parts) :
    (o.nativeLibrary ≠ {} ∧ c = .nativeLibrary partColumn parts)
      ∨ ((∀ column ps, c ≠ .nativeLibrary column ps) ∧ ∀ key d, c ≠ .other key d) := by
  obtain ⟨e, he, hvalue⟩ := List.mem_filterMap.mp h
  simp only [fields, List.mem_cons, List.not_mem_nil, or_false] at he
  rcases he with rfl | rfl | rfl | rfl | rfl | rfl | rfl | rfl | rfl
  case inr.inr.inr.inr.inr.inr.inr.inr =>
    simp only at hvalue
    split at hvalue
    · cases hvalue
    · rename_i hsome
      exact .inl ⟨hsome, (Option.some.inj hvalue).symm⟩
  all_goals
    obtain ⟨v, -, rfl⟩ := Option.map_eq_some_iff.mp hvalue
    exact .inr ⟨nofun, nofun⟩

/-- **The choices make of the defaults what is chosen.** -/
theorem foldl_choices (hparts : parts.foldl (fun l p => p.put l) {} = o.nativeLibrary.library) :
    (o.choices itemColumn partColumn parts).foldl (fun s c => c.put s) defaults = o.settings := by
  have hpython : ∀ s, putOption Choice.put (o.python.map .python) s
      = { s with python := o.python.getD s.python } :=
    putOption_map (fun _ _ => rfl) (fun _ => rfl) o.python
  have hjdk : ∀ s, putOption Choice.put (o.jdkVersion.map .jdkVersion) s
      = { s with jdkVersion := o.jdkVersion.getD s.jdkVersion } :=
    putOption_map (fun _ _ => rfl) (fun _ => rfl) o.jdkVersion
  have hnode : ∀ s, putOption Choice.put (o.nodeMajor.map .nodeMajor) s
      = { s with nodeMajor := o.nodeMajor.getD s.nodeMajor } :=
    putOption_map (fun _ _ => rfl) (fun _ => rfl) o.nodeMajor
  have hscript : ∀ s, putOption Choice.put (o.nodesourceUrl.map .nodesourceUrl) s
      = { s with nodesourceUrl := o.nodesourceUrl.getD s.nodesourceUrl } :=
    putOption_map (fun _ _ => rfl) (fun _ => rfl) o.nodesourceUrl
  have hindex : ∀ s, putOption Choice.put (o.nightlyIndexUrl.map .nightlyIndexUrl) s
      = { s with nightlyIndexUrl := o.nightlyIndexUrl.getD s.nightlyIndexUrl } :=
    putOption_map (fun _ _ => rfl) (fun _ => rfl) o.nightlyIndexUrl
  have hpip : ∀ s, putOption Choice.put (o.upgradePip.map .upgradePip) s
      = { s with upgradePip := o.upgradePip.getD s.upgradePip } :=
    putOption_map (fun _ _ => rfl) (fun _ => rfl) o.upgradePip
  have hnpm : ∀ s, putOption Choice.put (o.npmPackages.map (.npmPackages itemColumn)) s
      = { s with npmPackages := o.npmPackages.getD s.npmPackages } :=
    putOption_map (fun _ _ => rfl) (fun _ => rfl) o.npmPackages
  have hmac : ∀ s, putOption Choice.put (o.macNpmScript.map .macNpmScript) s
      = { s with macNpmScript := o.macNpmScript.getD s.macNpmScript } :=
    putOption_map (fun _ _ => rfl) (fun _ => rfl) o.macNpmScript
  -- The library starts from its own defaults, and these are the ones it has here.
  have hlibrary : ∀ s : Settings, s.nativeLibrary = {} →
      putOption Choice.put (if o.nativeLibrary = {} then none
        else some (.nativeLibrary partColumn parts)) s
      = { s with nativeLibrary := o.nativeLibrary.library } := by
    intro s hs
    split
    · rename_i hnone
      rw [hnone, show ({} : NativeLibrary.Overrides).library = {} from rfl, ← hs]
      rfl
    · rw [← hparts]
      rfl
  unfold choices
  rw [foldl_fields Choice.put]
  simp only [fields, List.foldl_cons, List.foldl_nil]
  rw [hpython, hjdk, hnode, hscript, hindex, hpip, hnpm, hmac, hlibrary _ rfl]
  rfl

end Overrides

/-! ## §4. Reading the file. -/

namespace Overrides.Writes

variable {o : Overrides} {cs : List Choice}

/-- The keys of a file are distinct. -/
theorem nodup (h : o.Writes cs) : (cs.map Choice.key).Nodup := by
  obtain ⟨order, -, -, distinct, -, unknown, -, -⟩ := h
  exact nodup_keys Choice.key (fun _ => rfl) (by decide) order (keys_choices o _ _ _) distinct unknown

/-- What the file changes is what is chosen. -/
theorem foldl_eq (h : o.Writes cs) :
    cs.foldl (fun s c => c.put s) defaults = o.settings := by
  have hkeys := h.nodup
  obtain ⟨order, partOrder, -, -, distinctParts, -, unknownParts, -⟩ := h
  have hpartKeys := NativeLibrary.Overrides.nodup_parts partOrder distinctParts unknownParts
  -- On both levels the order does not matter, and foreign keys change nothing.
  have hparts := foldl_perm NativeLibrary.Choice.put_comm partOrder hpartKeys {}
  rw [List.foldl_append, foldl_foreign (fun _ _ => rfl),
    NativeLibrary.Overrides.foldl_choices] at hparts
  rw [foldl_perm Choice.put_comm order hkeys, List.foldl_append, foldl_foreign (fun _ _ => rfl)]
  exact foldl_choices o _ _ _ hparts

/-- Each key of the file can be written. -/
theorem proper (h : o.Writes cs) : ∀ c ∈ cs, c.IsProper := by
  obtain ⟨order, partOrder, deeper, -, distinctParts, unknown, unknownParts, printable⟩ := h
  have hpartKeys := NativeLibrary.Overrides.nodup_parts partOrder distinctParts unknownParts
  intro c hc
  have hdata := printable c hc
  have hfrom := List.mem_append.mp (order.mem_iff.mp hc)
  cases c with
  | other key d =>
      rcases hfrom with hchosen | hforeign
      · rcases mem_choices hchosen with ⟨-, heq⟩ | ⟨-, hother⟩
        · cases heq
        · exact absurd rfl (hother key d)
      · obtain ⟨f, hf, heq⟩ := List.mem_map.mp hforeign
        cases heq
        exact ⟨unknown f hf, hdata _ (List.mem_cons_self ..)⟩
  | nativeLibrary column ps =>
      rcases hfrom with hchosen | hforeign
      · rcases mem_choices hchosen with ⟨hsome, heq⟩ | ⟨hlibrary, -⟩
        case inr => exact absurd rfl (hlibrary column ps)
        cases heq
        refine ⟨deeper, fun hnil => hsome ?_, hpartKeys, fun p hp => ?_⟩
        · rw [hnil] at partOrder
          exact NativeLibrary.Overrides.eq_of_choices (List.append_eq_nil_iff.mp partOrder.nil_eq.symm).1
        · exact NativeLibrary.Overrides.proper_part partOrder unknownParts hp
            (hdata _ (List.mem_map_of_mem hp))
      · obtain ⟨f, -, heq⟩ := List.mem_map.mp hforeign
        cases heq
  | npmPackages column vs => exact fun v hv => hdata _ (List.mem_map_of_mem hv)
  | jdkVersion n => trivial
  | nodeMajor n => trivial
  | upgradePip b => trivial
  | python v => exact hdata _ (List.mem_cons_self ..)
  | nodesourceUrl v => exact hdata _ (List.mem_cons_self ..)
  | nightlyIndexUrl v => exact hdata _ (List.mem_cons_self ..)
  | macNpmScript v => exact hdata _ (List.mem_cons_self ..)

theorem legible (h : o.Writes cs) : ∀ p ∈ cs.map Choice.pair, p.Legible := by
  intro p hp
  obtain ⟨c, hc, rfl⟩ := List.mem_map.mp hp
  exact Choice.legible_pair (h.proper c hc)

end Overrides.Writes

/-- Each character of the lines is one of ASCII. -/
theorem isAscii_lines {ps : List Yaml.Pair} (h : ∀ p ∈ ps, p.Legible) :
    ∀ c ∈ Yaml.written (pairLines ps), Utf8.isAscii c = true := by
  intro c hc
  rcases Yaml.printable_lines (Yaml.legible_pairs h) c hc with hprintable | rfl
  · have hle : c.toNat ≤ 0x7E := of_decide_eq_true (Bool.and_eq_true_iff.mp hprintable).2
    exact decide_eq_true (Nat.lt_of_le_of_lt hle (by decide))
  · decide

/-- The lines have a character of a key. -/
theorem exists_plainChar_lines {ps : List Yaml.Pair} (h : ∀ p ∈ ps, p.Legible) (hne : ps ≠ []) :
    ∃ c ∈ Yaml.written (pairLines ps), isPlainChar c = true := by
  obtain ⟨p, ps, rfl⟩ := List.exists_cons_of_ne_nil hne
  have hkey := (h p (List.mem_cons_self ..)).1
  obtain ⟨c, cs, hcs⟩ := List.exists_cons_of_ne_nil hkey.word.1
  have hc : c ∈ p.key := hcs ▸ List.mem_cons_self ..
  exact ⟨c, Yaml.mem_written_key p ps c hc, hkey.word.2.2 c hc⟩

theorem isBlank_plainChar {c : Char} (h : isPlainChar c = true) : isBlank c = false := by
  have hink := Yaml.isInk_plainChar h
  unfold Yaml.isInk isPrintableAscii at hink
  simp only [Bool.and_eq_true, bne_iff_ne, decide_eq_true_eq] at hink
  obtain ⟨⟨⟨hlow, hhigh⟩, hspace⟩, -⟩ := hink
  have hne : c.toNat ≠ 0x20 := fun heq => hspace (Char.toNat_inj.mp heq)
  unfold isBlank
  simp only [Bool.or_eq_false_iff, Bool.and_eq_false_iff, decide_eq_false_iff_not, beq_eq_false_iff_ne]
  omega

/-- A text with a character of a key is not blank. -/
theorem allBlank_of_plainChar {text : String} {c : Char} (hc : c ∈ text.toList)
    (hplain : isPlainChar c = true) : allBlank text = false := by
  unfold allBlank
  rw [List.all_eq_false]
  exact ⟨c, hc, by rw [isBlank_plainChar hplain]; exact Bool.false_ne_true⟩

/-- **The text of a file gives the defaults with the chosen fields replaced.** -/
theorem ofText_fileText {o : Overrides} {cs : List Choice} (h : o.Writes cs)
    (hparse : cs ≠ [] → ParsesAs (fileText cs) (cs.map Choice.pair)) :
    ofText (fileText cs) = .ok o.settings := by
  have hsettings := h.foldl_eq
  cases cs with
  | nil =>
      rw [← hsettings]
      rfl
  | cons c cs =>
      have hproper := h.proper
      have hnames : (c :: cs).map (fun x => String.ofList x.pair.key) = (c :: cs).map Choice.key :=
        List.map_congr_left fun x _ => String.ofList_toList
      obtain ⟨x, hx, hplain⟩ := exists_plainChar_lines h.legible (List.cons_ne_nil _ _)
      have hblank : allBlank (fileText (c :: cs)) = false :=
        allBlank_of_plainChar (by rw [fileText, String.toList_ofList]; exact hx) hplain
      unfold ofText
      rw [hblank, if_neg Bool.false_ne_true, ← hsettings]
      exact Yaml.decodeText_pairs "Settings" defaults (hparse (List.cons_ne_nil c cs))
        (fun x hx => Choice.puts (hproper x hx)) (hnames ▸ h.nodup)

/-- **A settings file overlays the defaults.**  Loading the file of some
overrides gives the defaults with the chosen fields replaced, and so the
settings themselves when every field is chosen.  That the text is parsed as
its mapping is assumed only where a key has more than 1024 characters, which
the format does not ask of a parser. -/
theorem loadFile_overlays {o : Overrides} {cs : List Choice} (h : o.Writes cs)
    (hlong : (∃ c ∈ cs, ¬ c.pair.IsShort) → ParsesAs (fileText cs) (cs.map Choice.pair))
    (a : CommandLine.Arguments) (m : Machine) (path : Path) (s : MachineState)
    (hfile : s.files.read m.workingDirectory path = .ok (Utf8.encode (fileText cs))) :
    ∃ t, s.OnlyLogged t
      ∧ (loadFile path).perform (Run.layer a m.host) s = (.ok o.settings, t)
      ∧ ∀ v, o = .all v → (loadFile path).perform (Run.layer a m.host) s = (.ok v, t) := by
  have hparse : cs ≠ [] → ParsesAs (fileText cs) (cs.map Choice.pair) := by
    intro hne
    by_cases hexists : ∃ c ∈ cs, ¬ c.pair.IsShort
    · exact hlong hexists
    · refine Yaml.document_pairs h.legible (fun p hp => ?_)
        (fun hnil => hne (List.map_eq_nil_iff.mp hnil))
      obtain ⟨c, hc, rfl⟩ := List.mem_map.mp hp
      exact Classical.byContradiction fun hshort => hexists ⟨c, hc, hshort⟩
  have hbytes : ofBytes path (Utf8.encode (fileText cs)) = .ok o.settings := by
    unfold ofBytes
    rw [Utf8.text?_encode (by rw [fileText, String.toList_ofList]; exact isAscii_lines h.legible)]
    show (match ofText (fileText cs) with | _ => _) = _
    rw [ofText_fileText h hparse]
  obtain ⟨t, ht, hload⟩ := perform_loadFile a m path s
  have hresult : (loadFile path).perform (Run.layer a m.host) s = (.ok o.settings, t) := by
    rw [hload, hfile]
    exact congrArg (·, t) hbytes
  refine ⟨t, ht, hresult, fun v hv => ?_⟩
  rw [hresult, hv, Overrides.settings_all]

/-- Two pinned versions, written with a foreign key between them. -/
def pins : List Choice :=
  [.nativeLibrary 2 [.version "1.7.1"], .other "extra" (.truth true), .nodeMajor 18]

/-- A machine with a file of these keys. -/
def pinnedMachine : MachineState where
  files :=
    { entries :=
        [(["etc"], .directory 0o755),
          (["etc", "pins.yml"], .file (Utf8.encode (fileText pins)) 0o644)] }

/-- Such a file leaves all other defaults as they are. -/
theorem loadFile_overlays_pins :
    ∃ t, pinnedMachine.OnlyLogged t
      ∧ (loadFile ⟨"/etc/pins.yml"⟩).perform
          (Run.layer {} { workingDirectory := ["srv"] : Machine }.host) pinnedMachine
        = (.ok { defaults with
            nodeMajor := 18
            nativeLibrary := { defaults.nativeLibrary with version := "1.7.1" } }, t) := by
  have horder : pins.Perm ([.nodeMajor 18]
      ++ [.nativeLibrary 2 [.version "1.7.1"], .other "extra" (.truth true)]) :=
    @List.perm_append_comm _ [_, _] [_]
  have hwrites : Overrides.Writes
      { nodeMajor := some 18, nativeLibrary := { version := some "1.7.1" } } pins :=
    @Overrides.Writes.intro _ _ 0 2 [.version "1.7.1"] [("extra", .truth true)] [] horder (.refl _)
      (by decide) (by decide) (by decide) (by decide) (by decide) (by decide)
  have hshort : ∀ c ∈ pins, c.pair.IsShort := by decide
  obtain ⟨t, ht, hload, -⟩ := loadFile_overlays hwrites
    (fun ⟨c, hc, hlong⟩ => absurd (hshort c hc) hlong) {} { workingDirectory := ["srv"] }
    ⟨"/etc/pins.yml"⟩ pinnedMachine rfl
  exact ⟨t, ht, hload⟩

end Settings

end Provision
