/-
  Provision.Proofs.VersionNumbers
  ───────────────────────────────
  **VERSION NUMBERS NEVER WRAP.**

  A settings file gives the major version of the JDK or of Node.js as an
  integer in decimal, of any size and sign.  It is loaded iff it is a number
  of 32 bits, and then as it is; every other integer is refused.  What is
  installed for the tool has the digits of the file in its name.

  Main results:

    `exists_digits`      an integer of 32 bits is written as its word
    `natural?_numeral`   the digits of all other integers are no word
    `pins_settings`      a successful run installs the release in the settings
    `loadFile_number`    what a file with a version number gives
-/
import Provision.Proofs.Plan
import Provision.Proofs.Asked
import Provision.Proofs.SettingsTexts

namespace Provision

open Procedure
open Provision.Text
open Provision.Yaml (IsTextOf Pair Scalar Value bound digits natural? decodeText pairLines)

/-! ## §1. Integers in decimal. -/

/-- The characters of an integer: its digits, behind a hyphen if it is negative. -/
def numeral (n : Int) : List Char := (toString n).toList

/-- A natural number is written with its digits. -/
theorem numeral_natCast (k : Nat) : numeral k = Nat.toDigits 10 k := Nat.toList_repr

/-- A negative number is written with a hyphen before its digits. -/
theorem numeral_negSucc (k : Nat) : numeral (.negSucc k) = '-' :: Nat.toDigits 10 (k + 1) := by
  show ("-" ++ Nat.repr (k + 1)).toList = _
  rw [String.toList_append, Nat.toList_repr]
  rfl

/-- **A numeral is a word of a plain scalar**, even with its hyphen. -/
theorem isWord_numeral (n : Int) : Yaml.IsWord (numeral n) := by
  have hplain : ∀ {k : Nat}, ∀ c ∈ Nat.toDigits 10 k, Yaml.isPlainChar c = true :=
    fun c hc => Datum.isPlainChar_digit (Yaml.isDigit_toDigits c hc)
  cases n with
  | ofNat k =>
      have hword := Yaml.isDigit_toDigits (n := k)
      rw [show numeral (.ofNat k) = Nat.toDigits 10 k from numeral_natCast k]
      refine ⟨Nat.toDigits_ne_nil, fun hhyphen => ?_, hplain⟩
      rw [hhyphen] at hword
      exact absurd (hword '-' (List.mem_cons_self ..)) (by decide)
  | negSucc k =>
      rw [numeral_negSucc]
      refine ⟨List.cons_ne_nil _ _, fun hhyphen => ?_, List.forall_mem_cons.mpr ⟨by decide, hplain⟩⟩
      exact Nat.toDigits_ne_nil (List.cons.inj hhyphen).2

/-- **An integer of 32 bits is written as its word.** -/
theorem exists_digits {n : Int} (hlow : 0 ≤ n) (hhigh : n < UInt32.size) :
    ∃ v : UInt32, (v.toNat : Int) = n ∧ numeral n = digits v := by
  obtain ⟨k, rfl⟩ := Int.eq_ofNat_of_zero_le hlow
  have hk : k < UInt32.size := Int.ofNat_lt.mp hhigh
  have hword : (UInt32.ofNat k).toNat = k := UInt32.toNat_ofNat_of_lt' hk
  refine ⟨UInt32.ofNat k, by rw [hword], ?_⟩
  unfold digits
  rw [hword, numeral_natCast]

/-- **The digits of all other integers are no word**: a number that is read
from them is too great. -/
theorem natural?_numeral {n : Int} (h : ¬ (0 ≤ n ∧ n < UInt32.size)) {k : Nat}
    (hread : natural? (bound 64) (numeral n) = some k) : bound 32 ≤ k := by
  cases n with
  | ofNat i =>
      rw [show numeral (.ofNat i) = Nat.toDigits 10 i from numeral_natCast i, Yaml.natural?_digits,
        Option.filter_eq_some_iff] at hread
      cases hread.1
      have hnonneg : (0 : Int) ≤ .ofNat k := Int.natCast_nonneg k
      have hgreat : ¬ k < UInt32.size := fun hlt => h ⟨hnonneg, Int.ofNat_lt.mpr hlt⟩
      exact Nat.not_lt.mp hgreat
  | negSucc i =>
      rw [numeral_negSucc, Yaml.natural?_hyphen] at hread
      cases hread

/-! ## §2. Values that are refused. -/

namespace Yaml

/-- The decoder takes nothing from these nodes, wherever they stand. -/
def Refuses {α : Type} (f : Decoder α) (nodes : List NodeEvent) : Prop :=
  ∀ d t es rest, es.map Prod.fst = nodes → ∃ fault, f d t (es ++ rest) = .error fault

/-- A plain scalar is no word unless a number of 32 bits is read from it. -/
theorem refuses_word {cs : List Char} (h : ∀ k, natural? (bound 64) cs = some k → bound 32 ≤ k) :
    Refuses word [(Scalar.plain cs).node] := by
  intro d t es rest hes
  obtain ⟨m, rfl⟩ := exists_single hes
  have hbare : isBare integerTag none .plain = true := rfl
  show ∃ fault, word d t ((.scalar none (String.ofList cs) .plain, m) :: rest) = .error fault
  unfold word node
  simp only [hbare, if_true, String.toList_ofList]
  -- A number of 64 bits is read first, and only then its size is checked.
  cases hread : natural? (bound 64) cs with
  | none => exact ⟨_, rfl⟩
  | some k => exact ⟨_, if_neg (Nat.not_lt.mpr (h k hread))⟩

/-- A text with one pair whose value is refused is refused. -/
theorem decodeText_refused {σ α : Type} {fields : Fields σ} {key : String} {v : Value}
    {value : Decoder α} {f : α → σ → σ} (name : String) (base : σ) {text : String}
    (hkey : fields key = field value f) (hvalue : Refuses value v.nodes)
    (hparse : ParsesAs text [⟨key.toList, v⟩]) :
    ∃ fault, decodeText (record name base fields) text = .error fault := by
  obtain ⟨es, hdocument, hnodes⟩ := hparse
  have hshape : mappingNodes [⟨key.toList, v⟩]
      = .mappingStart :: (Scalar.plain key.toList).node :: (v.nodes ++ [.mappingEnd]) := by
    unfold mappingNodes
    rw [List.flatMap_cons, List.flatMap_nil, List.append_nil]
    rfl
  rw [hshape] at hnodes
  -- The events are the start of the mapping, the key, and then those of the value.
  obtain ⟨⟨_, m⟩, es₁, rfl, rfl, hpair⟩ := List.map_eq_cons_iff.mp hnodes
  obtain ⟨⟨_, m'⟩, es₂, rfl, rfl, hrest⟩ := List.map_eq_cons_iff.mp hpair
  obtain ⟨vs, es₃, rfl, hvs, -⟩ := List.map_eq_append_iff.mp hrest
  have hfield : fields (String.ofList key.toList)
      = some fun d t es => (value d t es).map fun r => (f r.1, r.2) := by
    rw [String.ofList_toList]
    exact hkey
  obtain ⟨fault, hfault⟩ := hvalue { events := _ } (Trail.key "" (String.ofList key.toList)) vs es₃ hvs
  refine ⟨fault, ?_⟩
  unfold decodeText
  rw [hdocument]
  show (entries fields m _ [] base _ "" (((Scalar.plain key.toList).node, m') :: (vs ++ es₃)) >>= _)
    = _
  rw [entries_known hfield List.not_mem_nil]
  dsimp only
  rw [hfault]
  rfl

end Yaml

/-! ## §3. The pinned releases. -/

/-- The settings that are version numbers. -/
inductive VersionField where
  | jdkVersion
  | nodeMajor
  deriving DecidableEq, Repr

namespace VersionField

def key : VersionField → String
  | .jdkVersion => "jdk_version"
  | .nodeMajor => "node_major"

def get : VersionField → Settings → UInt32
  | .jdkVersion, s => s.jdkVersion
  | .nodeMajor, s => s.nodeMajor

def put : VersionField → UInt32 → Settings → Settings
  | .jdkVersion, n, s => { s with jdkVersion := n }
  | .nodeMajor, n, s => { s with nodeMajor := n }

/-- The step for the tool of the release. -/
def step : VersionField → Context → Procedure Unit
  | .jdkVersion, ctx => Prerequisites.ensure ctx .javaCompiler
  | .nodeMajor, ctx => NodeJs.install ctx

/-- The commands that install the release with these digits, where the platform
has a package or a formula for each release. -/
def installs (f : VersionField) (ctx : Context) (digits : String) : List Command :=
  match ctx.target.os, f with
  | .linux, .jdkVersion =>
      [ctx.elevated "apt-get" ["install", "-y", "openjdk-" ++ digits ++ "-jdk"]]
  | .macOS, .jdkVersion => [⟨"brew", ["install", "openjdk@" ++ digits], none⟩]
  | .macOS, .nodeMajor =>
      [⟨"brew", ["install", "node@" ++ digits], none⟩,
        ⟨"brew", ["link", "--overwrite", "node@" ++ digits], none⟩]
  | _, _ => []

/-- The commands of the step that name no release. -/
inductive Unpinned (ctx : Context) : VersionField → Command → Prop
  | unlink (h : ctx.target.os = .macOS) : Unpinned ctx .nodeMajor ⟨"brew", ["unlink", "node"], none⟩
  | source (h : ctx.target.os = .linux) (script : Path) :
      Unpinned ctx .nodeMajor (ctx.elevated "bash" [script.text])
  | package (h : ctx.target.os = .linux) :
      Unpinned ctx .nodeMajor (ctx.elevated "apt-get" ["install", "-y", "nodejs"])

/-- Does a run install the release, where these tools are there? -/
def isNeeded (ctx : Context) (has : String → Bool) : VersionField → Bool
  | .jdkVersion => Plan.needs ctx has "javac"
  | .nodeMajor => ctx.config.environment == .developer

/-- The release with these digits is what is installed: the step of its tool
runs nothing else, however it ends, and a run that succeeds has installed it if
it was needed. -/
structure Pins (f : VersionField) (ctx : Context) (digits : String) : Prop where
  only : (f.step ctx).Asks fun r => ∀ c, r = .run c → c ∈ f.installs ctx digits ∨ Unpinned ctx f c
  installed : ∀ {σ : Type} (host : Host σ) (s : σ) (known : String → Option Path),
    (∀ tool s, (host (.locate tool) s).1 = known tool) →
    ((Sequence.install ctx).perform host s).1 = .ok () → f.isNeeded ctx (Known known) = true →
    ∀ c ∈ f.installs ctx digits, .run c ∈ ((Sequence.install ctx).account host s).runnerCalls

variable {f : VersionField} {ctx : Context}

/-- The step of a tool runs the commands for the release in the settings. -/
theorem asks_step_pinned : (f.step ctx).Asks fun r => ∀ c, r = .run c →
    c ∈ f.installs ctx (toString (f.get ctx.settings).toNat) ∨ Unpinned ctx f c := by
  let R : Request → Prop := fun r => ∀ c, r = .run c →
    c ∈ f.installs ctx (toString (f.get ctx.settings).toNat) ∨ Unpinned ctx f c
  have hR : Lenient R := by
    rintro r hcall - c rfl
    cases hcall
  have hmember : ∀ c, c ∈ f.installs ctx (toString (f.get ctx.settings).toNat) → R (.run c) := by
    rintro c hc c' heq
    cases heq
    exact .inl hc
  have hunpinned : ∀ c, Unpinned ctx f c → R (.run c) := by
    rintro c hc c' heq
    cases heq
    exact .inr hc
  show (f.step ctx).Asks R
  cases f with
  | jdkVersion =>
      show (Prerequisites.ensure ctx .javaCompiler).Asks R
      unfold Prerequisites.ensure
      cases hos : ctx.target.os with
      | linux =>
          refine asks_whenNeeded hR nofun ((asks_step hR _).bind fun _ => asks_run (hmember _ ?_))
          unfold installs
          rw [hos]
          exact List.mem_cons_self ..
      | macOS =>
          refine asks_installJdkFormula hR nofun nofun (hmember _ ?_)
          unfold installs
          rw [hos]
          exact List.mem_cons_self ..
      | windows => exact asks_requireJdk hR nofun
  | nodeMajor =>
      show (NodeJs.install ctx).Asks R
      unfold NodeJs.install
      cases hos : ctx.target.os with
      | linux =>
          exact asks_whenNeeded hR nofun (asks_installFromSource hR nofun
            (fun script => hunpinned _ (.source hos script)) (hunpinned _ (.package hos)))
      | macOS =>
          show (NodeJs.relinkFormula ctx).Asks R
          rw [NodeJs.relinkFormula_eq]
          have hunlink : NodeJs.unlinkPresent.Asks R :=
            (asks_locate nofun).bind fun found =>
              (asks_run (hunpinned _ (.unlink hos))).when found.isSome
          refine (asks_step hR _).bind fun _ => hunlink.bind fun _ =>
            (asks_run (hmember _ ?_)).bind fun _ => asks_run (hmember _ ?_)
          · unfold installs
            rw [hos]
            exact List.mem_cons_self ..
          · unfold installs
            rw [hos]
            exact List.mem_cons_of_mem _ (List.mem_cons_self ..)
      | windows => exact asks_log hR _ _ _

/-- A successful run has called for the tools of a developer and for the JDK. -/
theorem leads_install_tools {known : String → Option Path} {E : Account} (hE : E.Probed known)
    (h : (Sequence.install ctx).Leads E (.ok ())) :
    ∃ script dir, Plan.developerTools ctx (Known known) script dir ⊆ E.runnerCalls
      ∧ Plan.jdk ctx (Known known) ⊆ E.runnerCalls := by
  rw [Sequence.install_eq] at h
  unfold Sequence.steps at h
  -- Before the tools stand the first log line, the interpreter and the package index.
  obtain ⟨_, E₁, F₁, rfl, -, hrest₁⟩ := leads_bind_ok h
  obtain ⟨_, E₂, F₂, rfl, -, hrest₂⟩ := leads_bind_ok hrest₁
  obtain ⟨_, E₃, F₃, rfl, -, hrest₃⟩ := leads_bind_ok hrest₂
  obtain ⟨_, E₄, F₄, rfl, h₄, hrest₄⟩ := leads_bind_ok hrest₃
  obtain ⟨_, E₅, E₆, rfl, h₅, -⟩ := leads_bind_ok hrest₄
  have hF₃ := (probed_append (probed_append (probed_append hE).2).2).2
  obtain ⟨hE₄, hF₄⟩ := probed_append hF₃
  obtain ⟨script, dir, hdev, -⟩ := leads_developerTools hE₄ h₄
  have hjdk := makes_jdk E₅ _ (probed_append hF₄).1 h₅
  simp only [Account.runnerCalls_append, hdev, hjdk]
  exact ⟨script, dir, fun r hr => by simp only [List.mem_append, hr, true_or, or_true],
    fun r hr => by simp only [List.mem_append, hr, true_or, or_true]⟩

/-- The commands for a release are in the plan of a run that needs it. -/
theorem installs_planned (has : String → Bool) (script dir : Path)
    (hneeded : f.isNeeded ctx has = true) :
    ∀ c ∈ f.installs ctx (toString (f.get ctx.settings).toNat),
      .run c ∈ Plan.developerTools ctx has script dir ∨ .run c ∈ Plan.jdk ctx has := by
  intro c hc
  cases f with
  | jdkVersion =>
      refine .inr ?_
      have hneeds : Plan.needs ctx has "javac" = true := hneeded
      unfold installs at hc
      unfold Plan.jdk
      cases hos : ctx.target.os with
      | linux =>
          rw [hos] at hc
          dsimp only
          rw [if_pos hneeds, List.mem_singleton.mp hc]
          exact List.mem_cons_self ..
      | macOS =>
          rw [hos] at hc
          dsimp only
          rw [if_pos hneeds, List.mem_singleton.mp hc]
          exact List.mem_cons_of_mem _ (List.mem_cons_self ..)
      | windows =>
          rw [hos] at hc
          cases hc
  | nodeMajor =>
      refine .inl ?_
      unfold installs at hc
      have hnode : .run c ∈ Plan.node ctx has script := by
        unfold Plan.node
        cases hos : ctx.target.os with
        | macOS =>
            rw [hos] at hc
            exact List.mem_append_right _ (List.mem_map_of_mem hc)
        | linux =>
            rw [hos] at hc
            cases hc
        | windows =>
            rw [hos] at hc
            cases hc
      have hdeveloper : (ctx.config.environment == .developer) = true := hneeded
      unfold Plan.developerTools
      rw [if_pos hdeveloper]
      simp only [List.mem_append, hnode, true_or, or_true]

/-- **The release in the settings is what is installed.** -/
theorem pins_settings (f : VersionField) (ctx : Context) :
    f.Pins ctx (toString (f.get ctx.settings).toNat) := by
  refine ⟨asks_step_pinned, fun host s known hknown hok hneeded c hc => ?_⟩
  have hleads := leads_account host (Sequence.install ctx) s
  rw [hok] at hleads
  obtain ⟨script, dir, hdev, hjdk⟩ :=
    leads_install_tools (probed_account hknown (Sequence.install ctx) s) hleads
  rcases installs_planned (Known known) script dir hneeded c hc with hplanned | hplanned
  · exact hdev hplanned
  · exact hjdk hplanned

/-! ## §4. Files with a version number. -/

/-- The line that gives an integer for the field. -/
def line (f : VersionField) (n : Int) : String := f.key ++ ": " ++ toString n

/-- The pair of the line. -/
def pair (f : VersionField) (n : Int) : Pair := ⟨f.key.toList, .scalar (.plain (numeral n))⟩

theorem isTextOf_line {f : VersionField} {n : Int} {text : String}
    (h : text = f.line n ∨ text = f.line n ++ "\n") : IsTextOf text.toList (pairLines [f.pair n]) := by
  have hline : (f.line n).toList = f.key.toList ++ ':' :: ' ' :: numeral n := by
    unfold line
    rw [String.toList_append, String.toList_append, List.append_assoc]
    rfl
  have hwritten : Yaml.written (pairLines [f.pair n]) = (f.line n).toList ++ ['\n'] := by
    rw [hline]
    show ([] ++ ((f.key.toList ++ ':' :: ' ' :: numeral n) ++ ['\n'])) ++ [] = _
    rw [List.nil_append, List.append_nil]
  rcases h with rfl | rfl
  · exact .inr hwritten.symm
  · refine .inl ?_
    rw [hwritten, String.toList_append]
    rfl

theorem legible_pair_number (f : VersionField) (n : Int) : (f.pair n).Legible := by
  refine ⟨?_, isWord_numeral n⟩
  cases f
  · exact Settings.Choice.isKey_known "jdk_version" (by decide)
  · exact Settings.Choice.isKey_known "node_major" (by decide)

theorem isShort_pair (f : VersionField) (n : Int) : (f.pair n).IsShort := by
  have hkey : f.key.toList.length ≤ 1024 := by
    cases f <;> decide
  exact ⟨hkey, trivial⟩

/-- The key of a version field is decoded as a number of 32 bits. -/
theorem fields_key (f : VersionField) : Settings.fields f.key = Yaml.field Yaml.word f.put := by
  cases f <;> rfl

theorem get_put (f : VersionField) (v : UInt32) (s : Settings) : f.get (f.put v s) = v := by
  cases f <;> rfl

end VersionField

namespace Settings

section Files

variable {f : VersionField} {n : Int} {text : String}
  (htext : IsTextOf text.toList (pairLines [f.pair n])) (a : CommandLine.Arguments) (m : Machine)
  (path : Path) (s : MachineState)
  (hfile : s.files.read m.workingDirectory path = .ok (Utf8.encode text))
include htext hfile

/-- The digits of a word are loaded as this word. -/
theorem loadFile_digits {v : UInt32} (h : numeral n = digits v) :
    ∃ t, s.OnlyLogged t
      ∧ (loadFile path).perform (Run.layer a m.host) s = (.ok (f.put v defaults), t) := by
  have hputs : Yaml.Puts fields (f.pair n) (f.put v) := by
    refine Yaml.puts_field f.fields_key ?_ rfl
    rw [h]
    exact Yaml.decodes_word v
  exact @loadFile_pairs _ f.pair (fun _ => f.put v) [n] _ htext
    (fun n _ => f.legible_pair_number n) (fun n _ => f.isShort_pair n)
    (List.forall_mem_singleton.mpr hputs) (List.nodup_cons.mpr ⟨List.not_mem_nil, List.nodup_nil⟩)
    (List.cons_ne_nil _ _) a m path s hfile

/-- An integer that is no word is refused. -/
theorem loadFile_refused (h : ¬ (0 ≤ n ∧ n < UInt32.size)) :
    ∃ message t, s.OnlyLogged t ∧ (loadFile path).perform (Run.layer a m.host) s
      = (.error (.settingsUnreadable path message), t) := by
  have hlegible := List.forall_mem_singleton.mpr (f.legible_pair_number n)
  have hparse := Yaml.document_text htext hlegible
    (List.forall_mem_singleton.mpr (f.isShort_pair n)) (List.cons_ne_nil _ _)
  have hvalue : Yaml.Refuses Yaml.word (Value.scalar (.plain (numeral n))).nodes :=
    Yaml.refuses_word fun k hread => natural?_numeral h hread
  obtain ⟨fault, hfault⟩ :=
    Yaml.decodeText_refused "Settings" defaults f.fields_key hvalue hparse
  obtain ⟨t, ht, hload⟩ := loadFile_text htext hlegible (List.cons_ne_nil _ _) a m path s hfile
  refine ⟨fault.message, t, ht, hload.trans ?_⟩
  unfold decoder
  rw [hfault]
  rfl

end Files

/-- **A version number is loaded as it is, or refused.**  A file of one line
gives an integer for the major version of the JDK or of Node.js.  It is loaded
iff the integer is a number of 32 bits; then all other fields are the defaults,
and the packages and formulas that are installed have the digits of the file in
their names. -/
theorem loadFile_number (f : VersionField) (n : Int) {text : String}
    (htext : text = f.line n ∨ text = f.line n ++ "\n") (a : CommandLine.Arguments) (m : Machine)
    (path : Path) (s : MachineState)
    (hfile : s.files.read m.workingDirectory path = .ok (Utf8.encode text)) :
    ∃ r t, s.OnlyLogged t ∧ (loadFile path).perform (Run.layer a m.host) s = (r, t)
      ∧ (r.isOk = true ↔ 0 ≤ n ∧ n < UInt32.size)
      ∧ (∀ e, r = .error e → ∃ message, e = .settingsUnreadable path message)
      ∧ ∀ v, r = .ok v → ((f.get v).toNat : Int) = n ∧ v = f.put (f.get v) defaults
          ∧ ∀ (ctx : Context) (python : String), ctx.settings = { v with python := python } →
              f.Pins ctx (toString n) := by
  have hpair := VersionField.isTextOf_line htext
  by_cases hbits : 0 ≤ n ∧ n < UInt32.size
  · obtain ⟨v, rfl, hdigits⟩ := exists_digits hbits.1 hbits.2
    obtain ⟨t, ht, hload⟩ := loadFile_digits hpair a m path s hfile hdigits
    refine ⟨_, t, ht, hload, iff_of_true rfl hbits, nofun, ?_⟩
    intro w hw
    cases hw
    rw [f.get_put]
    refine ⟨rfl, rfl, fun ctx python hctx => ?_⟩
    -- Another interpreter changes neither version.
    have hsame : f.get ctx.settings = v := by
      rw [hctx]
      cases f <;> rfl
    have hpins := f.pins_settings ctx
    rw [hsame] at hpins
    exact hpins
  · obtain ⟨message, t, ht, hload⟩ := loadFile_refused hpair a m path s hfile hbits
    refine ⟨_, t, ht, hload, iff_of_false Bool.false_ne_true hbits, fun e he => ?_, nofun⟩
    cases he
    exact ⟨message, rfl⟩

/-- A machine whose settings file pins the greatest release of Node.js, on a
line that is not ended. -/
def greatestMachine : MachineState where
  files :=
    { entries :=
        [(["etc"], .directory 0o755),
          (["etc", "node.yml"], .file (Utf8.encode (VersionField.nodeMajor.line 4294967295)) 0o644)] }

theorem loadFile_number_greatest :
    ∃ t, greatestMachine.OnlyLogged t
      ∧ (loadFile ⟨"/etc/node.yml"⟩).perform
          (Run.layer {} { workingDirectory := ["srv"] : Machine }.host) greatestMachine
        = (.ok { defaults with nodeMajor := 4294967295 }, t) := by
  obtain ⟨r, t, ht, hload, hok, -, hvalue⟩ := loadFile_number .nodeMajor 4294967295 (.inl rfl) {}
    { workingDirectory := ["srv"] } ⟨"/etc/node.yml"⟩ greatestMachine rfl
  cases r with
  | error e => exact absurd (hok.mpr (by decide)) Bool.false_ne_true
  | ok v =>
      obtain ⟨hnumber, hfields, -⟩ := hvalue v rfl
      have hword : VersionField.nodeMajor.get v = 4294967295 := by
        have hgreatest : (4294967295 : UInt32).toNat = 4294967295 := rfl
        refine UInt32.toNat_inj.mp ?_
        rw [hgreatest]
        omega
      refine ⟨t, ht, hload.trans ?_⟩
      rw [hfields, hword]
      rfl

end Settings

end Provision
