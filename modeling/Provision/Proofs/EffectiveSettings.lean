/-
  Provision.Proofs.EffectiveSettings
  ──────────────────────────────────
  **WHICH SETTINGS A RUN USES.**

  What a settings file gives, and which file is in force, is said as two
  relations over a file system, without a word about requests.  Loading finds
  exactly what is in force, and only looks and writes log lines while it does
  so.  A run then either ends with the fault of its settings, or goes on from
  there with the settings in which only the interpreter may be another.

  Main results:

    `load_inForce`           loading finds what is in force
    `inForce_rewritten`      no other file decides about the settings
    `install_settings`       the settings of a run, and their faults
-/
import Provision.Host.Machine
import Provision.Proofs.Composed
import Provision.Proofs.NewNames

namespace Provision

open Provision.Text

namespace Settings

/-! ## §1. What a file gives. -/

/-- The settings, or the fault, that what exists under a path gives. -/
inductive FileGives (fs : FileSystem) (cwd : List String) (path : Path) :
    Except Failure Settings → Prop
  | directory {mode : Nat} (h : fs.lookup cwd path = .ok (.directory mode)) :
      FileGives fs cwd path (.error (.io .isDirectory))
  | notText {content : ByteArray} {mode : Nat}
      (h : fs.lookup cwd path = .ok (.file content mode)) (htext : Utf8.text? content = none) :
      FileGives fs cwd path (.error (.io .notUtf8))
  | blank {content : ByteArray} {mode : Nat} {text : String}
      (h : fs.lookup cwd path = .ok (.file content mode)) (htext : Utf8.text? content = some text)
      (hblank : allBlank text = true) : FileGives fs cwd path (.ok defaults)
  | settings {content : ByteArray} {mode : Nat} {text : String} {v : Settings}
      (h : fs.lookup cwd path = .ok (.file content mode)) (htext : Utf8.text? content = some text)
      (hblank : allBlank text = false) (hv : Yaml.decodeText decoder text = .ok v) :
      FileGives fs cwd path (.ok v)
  | unreadable {content : ByteArray} {mode : Nat} {text : String} {fault : Yaml.Fault}
      (h : fs.lookup cwd path = .ok (.file content mode)) (htext : Utf8.text? content = some text)
      (hblank : allBlank text = false) (hf : Yaml.decodeText decoder text = .error fault) :
      FileGives fs cwd path (.error (.settingsUnreadable path fault.message))

/-- The settings in force, or the fault in their place: those of the file that
is named, else those of the project's file, else the defaults. -/
inductive InForce (fs : FileSystem) (cwd : List String) (root : Path) :
    Option Path → Except Failure Settings → Prop
  | missing {path : Path} (h : ∀ e, fs.lookup cwd path ≠ .ok e) :
      InForce fs cwd root (some path) (.error (.settingsNotFound path))
  | named {path : Path} {r : Except Failure Settings} (h : FileGives fs cwd path r) :
      InForce fs cwd root (some path) r
  | project {r : Except Failure Settings} (h : FileGives fs cwd (projectFile root) r) :
      InForce fs cwd root none r
  | builtIn (h : ∀ e, fs.lookup cwd (projectFile root) ≠ .ok e) :
      InForce fs cwd root none (.ok defaults)

section Files

variable {fs : FileSystem} {cwd : List String} {root path : Path} {r r' : Except Failure Settings}

/-- A file that gives something exists. -/
theorem FileGives.exists (h : FileGives fs cwd path r) : ∃ e, fs.lookup cwd path = .ok e := by
  cases h with
  | directory h => exact ⟨_, h⟩
  | notText h _ => exact ⟨_, h⟩
  | blank h _ _ => exact ⟨_, h⟩
  | settings h _ _ _ => exact ⟨_, h⟩
  | unreadable h _ _ _ => exact ⟨_, h⟩

/-- Only what is under the path decides. -/
theorem FileGives.congr {fs' : FileSystem} (h : FileGives fs cwd path r)
    (hsame : fs'.lookup cwd path = fs.lookup cwd path) : FileGives fs' cwd path r := by
  cases h with
  | directory h => exact .directory (hsame.trans h)
  | notText h htext => exact .notText (hsame.trans h) htext
  | blank h htext hblank => exact .blank (hsame.trans h) htext hblank
  | settings h htext hblank hv => exact .settings (hsame.trans h) htext hblank hv
  | unreadable h htext hblank hf => exact .unreadable (hsame.trans h) htext hblank hf

/-- What exists under a path gives what its reading and decoding give. -/
theorem FileGives.eq_ofBytes (h : FileGives fs cwd path r) :
    r = ((fs.read cwd path).mapError .io).bind (ofBytes path) := by
  unfold FileSystem.read
  cases h with
  | directory h =>
      rw [h]
      rfl
  | notText h htext =>
      rw [h]
      show _ = ofBytes path _
      simp only [ofBytes, htext]
  | blank h htext hblank =>
      rw [h]
      show _ = ofBytes path _
      simp only [ofBytes, htext, ofText, hblank, if_true]
  | settings h htext hblank hv =>
      rw [h]
      show _ = ofBytes path _
      simp only [ofBytes, htext, ofText, hblank, Bool.false_eq_true, if_false, hv]
  | unreadable h htext hblank hf =>
      rw [h]
      show _ = ofBytes path _
      simp only [ofBytes, htext, ofText, hblank, Bool.false_eq_true, if_false, hf]

/-- What exists gives something. -/
theorem fileGives_total {e : Entry} (h : fs.lookup cwd path = .ok e) :
    ∃ r, FileGives fs cwd path r := by
  cases e with
  | directory mode => exact ⟨_, .directory h⟩
  | file content mode =>
      cases htext : Utf8.text? content with
      | none => exact ⟨_, .notText h htext⟩
      | some text =>
          cases hblank : allBlank text with
          | true => exact ⟨_, .blank h htext hblank⟩
          | false =>
              cases hdecoded : Yaml.decodeText decoder text with
              | ok v => exact ⟨_, .settings h htext hblank hdecoded⟩
              | error fault => exact ⟨_, .unreadable h htext hblank hdecoded⟩

theorem FileGives.unique (h : FileGives fs cwd path r) (h' : FileGives fs cwd path r') :
    r = r' := h.eq_ofBytes.trans h'.eq_ofBytes.symm

/-- At most one thing is in force. -/
theorem InForce.unique {named : Option Path} (h : InForce fs cwd root named r)
    (h' : InForce fs cwd root named r') : r = r' := by
  have hclash : ∀ {p : Path} {q : Except Failure Settings}, (∀ e, fs.lookup cwd p ≠ .ok e) →
      ¬ FileGives fs cwd p q := by
    intro p q hnone hgives
    obtain ⟨e, he⟩ := hgives.exists
    exact hnone e he
  cases h with
  | missing h =>
      cases h' with
      | missing _ => rfl
      | named h' => exact absurd h' (hclash h)
  | named h =>
      cases h' with
      | missing h' => exact absurd h (hclash h')
      | named h' => exact h.unique h'
  | project h =>
      cases h' with
      | project h' => exact h.unique h'
      | builtIn h' => exact absurd h (hclash h')
  | builtIn h =>
      cases h' with
      | project h' => exact absurd h' (hclash h)
      | builtIn _ => rfl

end Files

end Settings

/-! ## §2. Other files. -/

namespace FileSystem

variable {fs : FileSystem} {place : List String} {old new : ByteArray} {mode : Nat}

/-- A walk passes through directories, whatever the files hold. -/
theorem walk_rewritten (h : fs.get? place = some (.file old mode)) (here rest : List String) :
    (fs.insert place (.file new mode)).walk here rest = fs.walk here rest := by
  induction rest generalizing here with
  | nil => rfl
  | cons name rest ih =>
      unfold walk
      by_cases hhere : here = place
      · have hroot : place ≠ [] := by
          intro hnil
          subst hnil
          cases h
        have hnew : (fs.insert place (.file new mode)).get? place = some (.file new mode) := by
          rw [get?_of_ne_nil _ hroot]
          exact List.lookup_cons_self
        rw [hhere, hnew, h]
      · rw [get?_insert hhere]
        simp only [ih]

/-- **A path to another place finds there what was there**, when a file is
written anew. -/
theorem lookup_rewritten (h : fs.get? place = some (.file old mode)) {cwd : List String}
    {path : Path} (hother : fs.resolve cwd path ≠ .ok place) :
    (fs.insert place (.file new mode)).lookup cwd path = fs.lookup cwd path := by
  have hresolve : (fs.insert place (.file new mode)).resolve cwd path = fs.resolve cwd path := by
    unfold resolve
    rw [walk_rewritten h]
  unfold lookup
  rw [hresolve]
  cases hnames : fs.resolve cwd path with
  | error f => rfl
  | ok names =>
      have hne : names ≠ place := by
        intro heq
        rw [hnames, heq] at hother
        exact hother rfl
      simp only [bind, Except.bind, get?_insert hne]

end FileSystem

/-- **No other file decides about the settings** of a run that names its own. -/
theorem Settings.inForce_rewritten {fs : FileSystem} {cwd place : List String} {root path : Path}
    {r : Except Failure Settings} {old new : ByteArray} {mode : Nat}
    (hr : InForce fs cwd root (some path) r) (h : fs.get? place = some (.file old mode))
    (hother : fs.resolve cwd path ≠ .ok place) :
    InForce (fs.insert place (.file new mode)) cwd root (some path) r := by
  have hsame : (fs.insert place (.file new mode)).lookup cwd path = fs.lookup cwd path :=
    FileSystem.lookup_rewritten h hother
  cases hr with
  | missing hnone =>
      refine .missing ?_
      rw [hsame]
      exact hnone
  | named hgives => exact .named (hgives.congr hsame)

/-! ## §3. Loading on a machine. -/

/-- Does the request only look at a file, or write a log line? -/
def Request.isInquiry : Request → Bool
  | .doesExist _ => true
  | .read _ => true
  | .log _ => true
  | _ => false

/-- Only log lines have been written between the two states. -/
structure MachineState.OnlyLogged (s t : MachineState) : Prop where
  files : t.files = s.files
  stdout : t.stdout = s.stdout
  calls : t.calls = s.calls

/-- A layer hands inquiries to the machine as they are. -/
theorem layer_inquiry (a : CommandLine.Arguments) (m : Machine) {q : Request}
    (hq : q.isInquiry = true) (s : MachineState) : Run.layer a m.host q s = m.host q s := by
  unfold Run.layer
  split <;> cases q <;> first | rfl | cases hq

theorem onlyLogged_log (m : Machine) (e : LogEntry) (s : MachineState) :
    s.OnlyLogged (m.host (.log e) s).2 := by
  simp only [Machine.host]
  split
  · exact ⟨rfl, rfl, rfl⟩
  · exact ⟨rfl, rfl, rfl⟩

/-- The layer of a run answers a request alike over hosts that do so, and that
show and log alike. -/
theorem layer_eq {σ : Type} (a : CommandLine.Arguments) {host host' : Host σ} {q : Request}
    (hq : host q = host' q) (htell : ∀ n, host (.tell n) = host' (.tell n))
    (hlog : ∀ e, host (.log e) = host' (.log e)) : Run.layer a host q = Run.layer a host' q := by
  unfold Run.layer
  funext s
  split
  · unfold rehearsing planning withoutNetwork
    cases q with
    | run c => simp only [htell]
    | fetch url => simp only [hlog]
    | _ => exact congrFun hq s
  · unfold announcing
    cases q with
    | run c => simp only [htell, hq]
    | _ => exact congrFun hq s

namespace Settings

/-- A file is loaded by reading and decoding it. -/
theorem perform_loadFile (a : CommandLine.Arguments) (m : Machine) (path : Path)
    (s : MachineState) :
    ∃ t, s.OnlyLogged t ∧ (loadFile path).perform (Run.layer a m.host) s
      = (((s.files.read m.workingDirectory path).mapError .io).bind (ofBytes path), t) := by
  have hlog := onlyLogged_log m ⟨.debug, .settings, "Loading settings from " ++ path.text⟩ s
  refine ⟨_, hlog, ?_⟩
  generalize ht : (m.host (.log ⟨.debug, .settings, "Loading settings from " ++ path.text⟩) s).2 = t
    at hlog
  have hread : (Procedure.read path).perform (Run.layer a m.host) t
      = ((s.files.read m.workingDirectory path).mapError .io, t) := by
    show (Procedure.ofExcept (Run.layer a m.host (.read path) t).1).perform (Run.layer a m.host)
      (Run.layer a m.host (.read path) t).2 = _
    rw [layer_inquiry a m rfl, Procedure.perform_ofExcept, ← hlog.files]
    rfl
  show ((Procedure.read path).bind fun bytes => Procedure.ofExcept (ofBytes path bytes)).perform
      (Run.layer a m.host) (Run.layer a m.host _ s).2 = _
  rw [layer_inquiry a m rfl, ht, Procedure.perform_bind, hread]
  cases s.files.read m.workingDirectory path with
  | error f => rfl
  | ok bytes => exact Procedure.perform_ofExcept _ _ _

/-- **Loading finds what is in force**, and writes nothing but log lines. -/
theorem load_inForce (a : CommandLine.Arguments) (m : Machine) (root : Path)
    (named : Option Path) (s : MachineState) :
    ∃ r t, (load root named).perform (Run.layer a m.host) s = (r, t)
      ∧ InForce s.files m.workingDirectory root named r ∧ s.OnlyLogged t := by
  -- What exists is loaded, and gives what is found there.
  have hfile : ∀ path e, s.files.lookup m.workingDirectory path = .ok e →
      ∃ r t, (loadFile path).perform (Run.layer a m.host) s = (r, t)
        ∧ FileGives s.files m.workingDirectory path r ∧ s.OnlyLogged t := by
    intro path e he
    obtain ⟨t, ht, hload⟩ := perform_loadFile a m path s
    obtain ⟨r, hr⟩ := fileGives_total he
    exact ⟨r, t, by rw [hload, hr.eq_ofBytes], hr, ht⟩
  have hexist : ∀ path, Run.layer a m.host (.doesExist path) s
      = ((s.files.lookup m.workingDirectory path).isOk, s) :=
    fun path => layer_inquiry a m rfl s
  cases named with
  | some path =>
      have hload : (load root (some path)).perform (Run.layer a m.host) s
          = (if (s.files.lookup m.workingDirectory path).isOk then loadFile path
              else .fail (.settingsNotFound path)).perform (Run.layer a m.host) s := by
        show ((Procedure.doesExist path).bind _).perform (Run.layer a m.host) s = _
        rw [Procedure.perform_bind]
        simp only [Procedure.doesExist, Procedure.perform, hexist]
      cases he : s.files.lookup m.workingDirectory path with
      | ok e =>
          obtain ⟨r, t, hr, hgives, ht⟩ := hfile path e he
          rw [he] at hload
          exact ⟨r, t, hload.trans hr, .named hgives, ht⟩
      | error f =>
          rw [he] at hload
          refine ⟨_, s, hload, .missing fun e h => ?_, ⟨rfl, rfl, rfl⟩⟩
          rw [he] at h
          cases h
  | none =>
      have hload : (load root none).perform (Run.layer a m.host) s
          = (if (s.files.lookup m.workingDirectory (projectFile root)).isOk
              then loadFile (projectFile root)
              else (Procedure.log .debug .settings "No settings file, using defaults").bind
                fun _ => .done defaults).perform (Run.layer a m.host) s := by
        show (((Procedure.doesExist (projectFile root)).bind _).bind _).perform
            (Run.layer a m.host) s = _
        rw [Procedure.bind_assoc, Procedure.perform_bind]
        simp only [Procedure.doesExist, Procedure.perform, hexist]
        cases (s.files.lookup m.workingDirectory (projectFile root)).isOk <;> rfl
      cases he : s.files.lookup m.workingDirectory (projectFile root) with
      | ok e =>
          obtain ⟨r, t, hr, hgives, ht⟩ := hfile _ e he
          rw [he] at hload
          exact ⟨r, t, hload.trans hr, .project hgives, ht⟩
      | error f =>
          rw [he] at hload
          refine ⟨_, (m.host (.log ⟨.debug, .settings, "No settings file, using defaults"⟩) s).2,
            hload.trans ?_, .builtIn fun e h => ?_, onlyLogged_log m _ s⟩
          · show ((.ok defaults, (Run.layer a m.host _ s).2) : Except Failure Settings × _) = _
            rw [layer_inquiry a m rfl]
          · rw [he] at h
            cases h

/-- Loading only inquires. -/
theorem asks_load (root : Path) (named : Option Path) :
    (load root named).Asks fun q => q.isInquiry = true := by
  have hfile : ∀ path, (loadFile path).Asks fun q => q.isInquiry = true := fun path =>
    .bind (Procedure.asks_ask rfl fun _ => Procedure.asks_done _) fun _ =>
      .bind (Procedure.asks_ask rfl Procedure.asks_ofExcept) fun _ => Procedure.asks_ofExcept _
  cases named with
  | some path =>
      refine .bind (Procedure.asks_ask rfl Procedure.asks_done) fun found => ?_
      cases found with
      | true => exact hfile path
      | false => exact Procedure.asks_fail _
  | none =>
      refine Procedure.Asks.bind (.bind (Procedure.asks_ask rfl Procedure.asks_done) fun found => ?_)
        fun file => ?_
      · show (if found = true then _ else _ : Procedure (Option Path)).Asks _
        split <;> exact Procedure.asks_done _
      · cases file with
        | some path => exact hfile path
        | none =>
            exact .bind (Procedure.asks_ask rfl Procedure.asks_done) fun _ => Procedure.asks_done _

end Settings

/-! ## §4. The settings of a run. -/

/-- **The settings of a run, and their faults.**  Exactly one thing is in
force.  A fault ends the run before anything but inquiries was made; settings
are what the steps get, but for the interpreter that the run names.  No file
but a named one decides, neither about the settings nor about the run. -/
theorem install_settings (m : Machine) (w : Surroundings) (a : CommandLine.Arguments)
    (s : MachineState) (root : Path) (hroot : Run.projectRoot w.directory a.project = .ok root) :
    ∃ (r : Except Failure Settings) (t : MachineState),
      (∀ r', Settings.InForce s.files m.workingDirectory root a.config r' ↔ r' = r)
      ∧ s.OnlyLogged t
      ∧ (match r with
        | .error e =>
            (Run.install w a).perform (Run.layer a m.host) s = (.error e, t)
              ∧ ∀ x ∈ (Run.install w a).account (Run.layer a m.host) s, x.request.isInquiry = true
        | .ok v =>
            ∃ u, t.OnlyLogged u ∧ (Run.install w a).perform (Run.layer a m.host) s
              = (Procedure.withDirectory w.temporaryDirectory "servedeps-" fun scratch => do
                  Procedure.tell (.header ("Installing " ++ a.environment.display
                    ++ " dependencies (" ++ (a.targetOs w.os).display ++ ")"))
                  Sequence.install
                    { target := .forUser (a.targetOs w.os) w.administrator
                      config := a.installConfig root
                      settings := { v with python := a.python.getD v.python }
                      scratch := scratch }
                  Procedure.tell (.success
                    (if a.dryRun then "Dry run complete" else "All dependencies installed"))).perform
                  (Run.layer a m.host) u)
      ∧ ∀ path, a.config = some path →
          (∀ place old new mode, s.files.get? place = some (.file old mode) →
              s.files.resolve m.workingDirectory path ≠ .ok place →
              Settings.InForce (s.files.insert place (.file new mode)) m.workingDirectory root
                a.config r)
            ∧ ∀ other, other ≠ path → ∀ (σ : Type) (host host' : Host σ),
                (∀ q : Request, q.file? ≠ some other → host q = host' q) → ∀ state,
                  (Run.install w a).perform (Run.layer a host) state
                    = (Run.install w a).perform (Run.layer a host') state := by
  obtain ⟨r, t, hload, hforce, ht⟩ := Settings.load_inForce a m root a.config s
  -- The run is its loading, and what follows it.
  obtain ⟨rest, hrest, hinstall⟩ : ∃ rest : Settings → Procedure Unit,
      (∀ v, rest v = (Procedure.log .debug .commandLine ("Target platform: "
          ++ (a.targetOs w.os).display ++ " (" ++ (a.targetOs w.os).systemName ++ ")")).bind
        fun _ => Procedure.withDirectory w.temporaryDirectory "servedeps-"
          (Run.installIn (.forUser (a.targetOs w.os) w.administrator) (a.installConfig root)
            (Run.withInterpreter v a.python)))
      ∧ Run.install w a = (Settings.load root a.config).bind rest := by
    refine ⟨_, fun v => rfl, ?_⟩
    unfold Run.install
    rw [hroot]
    rfl
  refine ⟨r, t, fun r' => ⟨fun h => h.unique hforce, fun h => h ▸ hforce⟩, ht, ?_, ?_⟩
  · cases r with
    | error e =>
        refine ⟨?_, ?_⟩
        · rw [hinstall, Procedure.perform_bind, hload]
        · rw [hinstall, Procedure.account_bind, hload, List.append_nil]
          exact Settings.asks_load root a.config _ _ (Procedure.leads_account _ _ s)
    | ok v =>
        have hpython : Run.withInterpreter v a.python
            = { v with python := a.python.getD v.python } := by
          cases a.python <;> rfl
        refine ⟨_, onlyLogged_log m ⟨.debug, .commandLine, "Target platform: "
          ++ (a.targetOs w.os).display ++ " (" ++ (a.targetOs w.os).systemName ++ ")"⟩ t, ?_⟩
        rw [hinstall, Procedure.perform_bind, hload]
        show (rest v).perform (Run.layer a m.host) t = _
        rw [hrest, hpython, ← layer_inquiry a m rfl]
        rfl
  · intro path hpath
    refine ⟨fun place old new mode hplace hother => ?_, fun other hother σ host host' hagree state => ?_⟩
    · rw [hpath] at hforce ⊢
      exact Settings.inForce_rewritten hforce hplace hother
    · -- Only the named file is looked at, and about that the hosts agree.
      have hlooks : (Run.install w a).Asks fun q => ∀ p, q.file? = some p → p = path :=
        (composed_run (P := fun _ => True) w a (fun _ _ => trivial) (fun _ => trivial)
          fun root => by rw [hpath]; rfl).looks
      refine hlooks.perform_eq (fun q hq => ?_) state
      exact layer_eq a (hagree q fun hfile => hother (hq other hfile))
        (fun n => hagree _ fun hfile => by cases hfile)
        (fun e => hagree _ fun hfile => by cases hfile)

/-- A project whose own settings file is in order. -/
def settledProject : MachineState where
  files :=
    { entries :=
        [(["srv"], .directory 0o755), (["srv", ".servedeps"], .directory 0o755),
          (["srv", ".servedeps", "config.yml"], .file (Utf8.encode "node_major: 16\n") 0o644)] }

/-- A run that names a file which does not exist fails, although the file of
the project is there. -/
theorem install_settings_missing :
    Run.projectRoot ⟨"/srv"⟩ none = .ok ⟨"/srv"⟩
      ∧ settledProject.files.doesExist ["srv"] ⟨"/srv/.servedeps/config.yml"⟩ = true
      ∧ ((Run.install { directory := ⟨"/srv"⟩ } { config := some ⟨"/etc/pins.yml"⟩ }).perform
          (Run.layer { config := some ⟨"/etc/pins.yml"⟩ }
            { workingDirectory := ["srv"] : Machine }.host) settledProject).1
        = .error (.settingsNotFound ⟨"/etc/pins.yml"⟩) := by
  refine ⟨rfl, by decide +kernel, ?_⟩
  obtain ⟨r, t, hr, -, hrun, -⟩ := install_settings { workingDirectory := ["srv"] }
    { directory := ⟨"/srv"⟩ } { config := some ⟨"/etc/pins.yml"⟩ } settledProject ⟨"/srv"⟩ rfl
  have hnone : settledProject.files.lookup ["srv"] ⟨"/etc/pins.yml"⟩ = .error .noEntry := by rfl
  have hmissing := (hr _).mp (.missing fun e he => by
    rw [hnone] at he
    cases he)
  rw [← hmissing] at hrun
  rw [hrun.1]

end Provision
