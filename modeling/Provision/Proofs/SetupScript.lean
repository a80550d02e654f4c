/-
  Provision.Proofs.SetupScript
  ────────────────────────────
  **THE SCRIPT THAT SETS UP THE PACKAGE SOURCE.**

  On Linux a missing Node.js is installed from a package source, which a script
  sets up that is downloaded first and runs with the rights of the
  administrator.  What matters about it are states in the middle of the step:
  when the script is run, the file that is run holds what was downloaded, and
  when the step is over, wherever it ended, the file is gone.

  The moments of a run are its requests with the states that they meet.  The
  commands, the download and the search for tools are those of arbitrary
  services; files are created and removed by the machine.

  Main results:

    `moments_bind`        the moments of a sequence are those of its parts
    `freshPath_of_free`   where a name is free, a new file gets one
    `install_runs_script` the script that runs is the downloaded one, and it
                          does not outlive the step
-/
import Provision.Proofs.BuildRemains
import Provision.Proofs.NormalPaths

namespace Provision

open Procedure FileSystem Text

/-! ## §1. Requests and the states that they meet. -/

namespace Procedure

variable {σ α β : Type}

/-- The calls among the requests, each with the state that it meets. -/
def callMoments (host : Host σ) (p : Procedure α) (s : σ) : List (Request × σ) :=
  (p.moments host s).filter fun q => q.1.isCall

/-- **The moments of a sequence are those of its parts.** -/
theorem moments_bind (host : Host σ) (p : Procedure α) (f : α → Procedure β) (s : σ) :
    (p.bind f).moments host s
      = p.moments host s ++ match p.perform host s with
        | (.ok a, t) => (f a).moments host t
        | (.error _, _) => [] := by
  induction p generalizing s with
  | done a => rfl
  | fail e => rfl
  | ask r k ih => exact congrArg ((r, s) :: ·) (ih _ _)

/-- What is done at the end comes last, wherever the procedure ends. -/
theorem moments_withCleanUp (host : Host σ) (p : Procedure α) (cleanUp : Procedure Unit) (s : σ) :
    (p.withCleanUp cleanUp).moments host s
      = p.moments host s ++ cleanUp.moments host (p.perform host s).2 := by
  have hlast : ∀ (end' : Unit → Procedure α), (∀ u t, (end' u).moments host t = []) →
      ∀ t, (cleanUp.bind end').moments host t = cleanUp.moments host t := by
    intro end' hend t
    rw [moments_bind]
    split
    · rw [hend, List.append_nil]
    · exact List.append_nil _
  induction p generalizing s with
  | done a => exact hlast _ (fun _ _ => rfl) s
  | fail e => exact hlast _ (fun _ _ => rfl) s
  | ask r k ih => exact congrArg ((r, s) :: ·) (ih _ _)

theorem callMoments_withCleanUp (host : Host σ) (p : Procedure α) (path : Path) (s : σ) :
    (p.withCleanUp (discard path)).callMoments host s = p.callMoments host s := by
  unfold callMoments
  rw [moments_withCleanUp, List.filter_append]
  exact List.append_nil _

/-- What is allowed at every request holds of all the requests that are made. -/
theorem Asks.of_mem_moments {R : Request → Prop} {host : Host σ} {p : Procedure α} {s : σ}
    (hp : p.Asks R) : ∀ q ∈ p.moments host s, R q.1 := by
  induction p generalizing s with
  | done a => exact fun _ hq => absurd hq List.not_mem_nil
  | fail e => exact fun _ hq => absurd hq List.not_mem_nil
  | ask r k ih =>
      obtain ⟨hr, hk⟩ := asks_iff_next.mp hp
      intro q hq
      rcases List.mem_cons.mp hq with rfl | hq
      · exact hr
      · exact ih _ (hk _) q hq

/-- What every moment of a run keeps, the run keeps. -/
theorem perform_keeps_of_moments {host : Host σ} {I : σ → Prop} {p : Procedure α} {s : σ}
    (hkeeps : ∀ q ∈ p.moments host s, I q.2 → I (host q.1 q.2).2) (hs : I s) :
    I (p.perform host s).2 := by
  induction p generalizing s with
  | done a => exact hs
  | fail e => exact hs
  | ask r k ih =>
      have hnext : I (host r s).2 := hkeeps _ (List.mem_cons_self ..) hs
      exact ih _ (fun q hq => hkeeps q (List.mem_cons_of_mem _ hq)) hnext

theorem perform_withDiscard (host : Host σ) (p : Procedure α) (path : Path) (s : σ) :
    (p.withCleanUp (discard path)).perform host s
      = ((p.perform host s).1, (host (.discard path) (p.perform host s).2).2) :=
  perform_withCleanUp host p (discard path) s

theorem perform_run (host : Host σ) (c : Command) (s : σ) :
    (run c).perform host s = host (.run c) s := perform_ofExcept host _ _

/-- The second of two commands is run if the first one succeeds, in the state that
it leaves. -/
theorem perform_runThen (host : Host σ) (c d : Command) (s : σ) :
    let answer : Except Failure Unit × σ := host (.run c) s
    (((run c).bind fun _ => run d).perform host s).1
        = (answer.1.bind fun _ => (host (.run d) answer.2).1)
      ∧ ((run c).bind fun _ => run d).callMoments host s
        = (.run c, s) :: if answer.1.isOk then [(.run d, answer.2)] else [] := by
  intro answer
  have hperform : ((run c).bind fun _ => run d).perform host s
      = ((ofExcept answer.1).bind fun _ => run d).perform host answer.2 := rfl
  have hmoments : ((run c).bind fun _ => run d).callMoments host s
      = (.run c, s) :: ((ofExcept answer.1).bind fun _ => run d).callMoments host answer.2 := rfl
  rw [hperform, hmoments]
  -- From here on only the answer of the first command matters.
  generalize answer = result
  obtain ⟨x, t⟩ := result
  cases x with
  | error e => exact ⟨rfl, rfl⟩
  | ok u =>
      constructor
      · exact congrArg Prod.fst (perform_run host d t)
      · -- Whatever the second command answers, nothing is called after it.
        show (Request.run c, s) :: (Request.run d, t) :: ((ofExcept (host (.run d) t).1).moments
          host _).filter _ = _
        cases (host (.run d) t).1 <;> rfl

/-- The first procedure gets to the second one without a call, and keeps what it
finds on its way. -/
structure Reaches (host : Host σ) (I : σ → Prop) (p : Procedure α) (s : σ) (q : Procedure α)
    (t : σ) : Prop where
  perform : p.perform host s = q.perform host t
  moments : ∃ first, p.moments host s = first ++ q.moments host t
    ∧ ∀ e ∈ first, e.1.isCall = false ∧ I e.2
  keeps : I t

section Reaching

variable {host : Host σ} {I : σ → Prop} {s t u : σ} {p q w : Procedure α}

theorem reaches_ask {r : Request} {k : r.Answer → Procedure α} {a : r.Answer}
    (hr : r.isCall = false) (hanswer : host r s = (a, t)) (hs : I s) (ht : I t) :
    (Procedure.ask r k).Reaches host I s (k a) t := by
  refine ⟨?_, ⟨[(r, s)], ?_, fun e he => ?_⟩, ht⟩
  · show (k (host r s).1).perform host (host r s).2 = _
    rw [hanswer]
  · show (r, s) :: (k (host r s).1).moments host (host r s).2 = _
    rw [hanswer]
    rfl
  · rw [List.mem_singleton.mp he]
    exact ⟨hr, hs⟩

theorem Reaches.trans (h : p.Reaches host I s q t) (h' : q.Reaches host I t w u) :
    p.Reaches host I s w u := by
  obtain ⟨first, hfirst, hquiet⟩ := h.moments
  obtain ⟨second, hsecond, hquiet'⟩ := h'.moments
  refine ⟨h.perform.trans h'.perform, ⟨first ++ second, ?_, fun e he => ?_⟩, h'.keeps⟩
  · rw [hfirst, hsecond, List.append_assoc]
  · rcases List.mem_append.mp he with he | he
    · exact hquiet e he
    · exact hquiet' e he

/-- Both make the same calls in the same states. -/
theorem Reaches.callMoments_eq (h : p.Reaches host I s q t) :
    p.callMoments host s = q.callMoments host t := by
  obtain ⟨first, hfirst, hquiet⟩ := h.moments
  unfold callMoments
  rw [hfirst, List.filter_append, List.filter_eq_nil_iff.mpr, List.nil_append]
  intro e he
  rw [(hquiet e he).1]
  exact Bool.false_ne_true

end Reaching

end Procedure

/-! ## §2. New names in a directory. -/

namespace FileSystem

/-- A name for one step down. -/
structure IsStep (name : String) : Prop where
  slash : '/' ∉ name.toList
  ne_empty : name ≠ ""
  ne_dot : name ≠ "."
  ne_up : name ≠ ".."

/-- A long name without a slash is one. -/
theorem isStep_of_length {name : String} (hslash : '/' ∉ name.toList)
    (hlength : 2 < name.toList.length) : IsStep name := by
  refine ⟨hslash, ?_, ?_, ?_⟩ <;>
  · rintro rfl
    exact absurd hlength (by decide)

theorem next_step {name : String} (h : IsStep name) (here : List String) :
    next here name = here ++ [name] := by
  unfold next
  rw [beq_eq_false_iff_ne.mpr h.ne_empty, beq_eq_false_iff_ne.mpr h.ne_dot,
    beq_eq_false_iff_ne.mpr h.ne_up]
  rfl

/-- **A name below a path leads one step down** from where the path leads. -/
theorem resolve_step {fs : FileSystem} {cwd there : List String} {p : Path} {name : String}
    {mode : Nat} (hp : fs.resolve cwd p = .ok there)
    (hthere : fs.get? there = some (.directory mode)) (hname : IsStep name) :
    fs.resolve cwd (p.join ⟨name⟩) = .ok (there ++ [name]) := by
  have hrelative := Path.isAbsolute_of_notMem hname.slash
  obtain ⟨hne, hwalk⟩ := resolve_eq_ok hp
  obtain ⟨habsolute, front, hpieces, hfront⟩ := Path.pieces_join hrelative hne
  have hjoined : (p.join ⟨name⟩).text ≠ "" := by
    rw [Path.text_join hne hrelative]
    exact fun hempty => hname.ne_empty (String.append_eq_empty_iff.mp hempty).2
  -- Without the piece behind a slash at its end the path leads there as well.
  have hthrough : fs.walk (if p.isAbsolute then [] else cwd) front = .ok there := by
    rcases hfront with hfront | hfront
    · rw [← hfront]
      exact hwalk
    · rw [hfront] at hwalk
      obtain ⟨middle, hfirst, hlast⟩ := walk_append_eq_ok.mp hwalk
      obtain ⟨-, hlast⟩ := walk_cons_eq_ok.mp hlast
      rw [hfirst]
      exact hlast
  have hstep : fs.walk there [name] = .ok (there ++ [name]) := by
    rw [walk_cons_eq_ok, next_step hname]
    exact ⟨⟨mode, hthere⟩, rfl⟩
  unfold resolve
  rw [if_neg (fun hempty => hjoined (eq_of_beq hempty)), habsolute, hpieces,
    pieces_of_notMem hname.slash]
  exact walk_append_eq_ok.mpr ⟨there, hthrough, hstep⟩

/-- **Where a name is free, a new file gets one**, in that directory. -/
theorem freshPath_of_free {fs : FileSystem} {cwd there : List String} {parent : Path}
    {before after : String} {mode : Nat} {middles : List String}
    (hparent : fs.resolve cwd ((pathOf cwd).join parent) = .ok there)
    (hthere : fs.get? there = some (.directory mode))
    (hsteps : ∀ a ∈ middles, IsStep (before ++ a ++ after))
    (hfree : ∃ a ∈ middles, fs.get? (there ++ [before ++ a ++ after]) = none) :
    ∃ a ∈ middles, fs.get? (there ++ [before ++ a ++ after]) = none
      ∧ fs.freshPath cwd parent before after middles
        = .ok (((pathOf cwd).join parent).join ⟨before ++ a ++ after⟩,
            there ++ [before ++ a ++ after]) := by
  induction middles with
  | nil =>
      obtain ⟨a, ha, -⟩ := hfree
      cases ha
  | cons middle more ih =>
      have hresolve := resolve_step hparent hthere (hsteps middle (List.mem_cons_self ..))
      have habove : (there ++ [before ++ middle ++ after]).dropLast = there :=
        List.dropLast_concat
      cases htaken : fs.get? (there ++ [before ++ middle ++ after]) with
      | none =>
          refine ⟨middle, List.mem_cons_self .., htaken, ?_⟩
          unfold freshPath
          dsimp only
          rw [hresolve]
          dsimp only
          rw [habove, hthere, htaken]
      | some e =>
          -- The name is taken, and the free one is further behind.
          have hmore : ∃ a ∈ more, fs.get? (there ++ [before ++ a ++ after]) = none := by
            obtain ⟨a, ha, hnone⟩ := hfree
            rcases List.mem_cons.mp ha with rfl | ha
            · rw [htaken] at hnone
              cases hnone
            · exact ⟨a, ha, hnone⟩
          obtain ⟨a, ha, hnone, hfresh⟩ := ih
            (fun a ha => hsteps a (List.mem_cons_of_mem _ ha)) hmore
          refine ⟨a, List.mem_cons_of_mem _ ha, hnone, ?_⟩
          rw [← hfresh, freshPath, hresolve]
          dsimp only
          rw [habove, hthere, htaken]

theorem get?_insert_self (fs : FileSystem) {names : List String} (e : Entry) (h : names ≠ []) :
    (fs.insert names e).get? names = some e := by
  rw [get?_of_ne_nil _ h]
  show List.lookup names ((names, e) :: _) = some e
  rw [List.lookup_cons, beq_self_eq_true]

/-- What a path leads to is what is read under it. -/
theorem read_of_resolve {fs : FileSystem} {cwd names : List String} {p : Path}
    {content : ByteArray} {mode : Nat} (h : fs.resolve cwd p = .ok names)
    (hfile : fs.get? names = some (.file content mode)) : fs.read cwd p = .ok content := by
  have hlookup : fs.lookup cwd p = .ok (.file content mode) := by
    unfold lookup
    rw [h]
    dsimp only [Bind.bind, Except.bind]
    rw [hfile]
  unfold read
  rw [hlookup]
  rfl

end FileSystem

/-! ## §3. Services. -/

/-- What a run is served by: a runner that may change the machine, a fetcher with
the state of the runner, and a search for tools. -/
structure Services (ρ : Type) where
  run : Runner ρ
  fetch : String → ρ → Except Failure ByteArray × ρ
  probe : String → Option Path

section Steps

variable {ρ : Type}

/-- The machine with these services. -/
def Machine.withServices (m : Machine) (v : Services ρ) : Host (ρ × MachineState)
  | .run c, x => v.run c x
  | .fetch url, x => ((v.fetch url x.1).1, ((v.fetch url x.1).2, x.2))
  | .locate tool, x => (v.probe tool, x)
  | r, x => ((m.host r x.2).1, (x.1, (m.host r x.2).2))

/-- The path under which new names are put into a directory. -/
def Machine.seen (m : Machine) (p : Path) : Path := (pathOf m.workingDirectory).join p

/-- The path leads to the place, and at it and below it everything is as in `fs`. -/
structure Shows (m : Machine) (p : Path) (there : List String) (fs : FileSystem)
    (x : ρ × MachineState) : Prop where
  leads : x.2.files.resolve m.workingDirectory p = .ok there
  holds : ∀ other, there <+: other → x.2.files.get? other = fs.get? other

/-- The commands among the calls do not touch a directory: what it was when one of
them started it is after it. -/
def Services.Spares (v : Services ρ) (m : Machine) (p : Path) (there : List String)
    (calls : List (Request × (ρ × MachineState))) : Prop :=
  ∀ c y, (.run c, y) ∈ calls → ∀ fs, Shows m p there fs y → Shows m p there fs (v.run c y).2

variable {m : Machine} {v : Services ρ} {ctx : Context} {x : ρ × MachineState}

/-- Nothing has happened to the files and to the services. -/
def Untouched (x y : ρ × MachineState) : Prop := y.1 = x.1 ∧ y.2.files = x.2.files

theorem reaches_tell (n : Notice) (rest : Procedure Unit) {y : ρ × MachineState}
    (hy : Untouched x y) :
    ∃ z, ((tell n).bind fun _ => rest).Reaches (m.withServices v) (Untouched x) y rest z :=
  ⟨_, reaches_ask (k := fun _ => rest) rfl rfl hy
    ⟨hy.1, (tell_files (m := m) n y.2).trans hy.2⟩⟩

theorem reaches_log (level : LogLevel) (source : LogSource) (text : String)
    (rest : Procedure Unit) {y : ρ × MachineState} (hy : Untouched x y) :
    ∃ z, ((log level source text).bind fun _ => rest).Reaches (m.withServices v) (Untouched x) y
      rest z :=
  ⟨_, reaches_ask (k := fun _ => rest) rfl rfl hy
    ⟨hy.1, (log_files (m := m) _ y.2).trans hy.2⟩⟩

/-- A tool that is missing, or is installed again, is needed. -/
theorem reaches_whenNeeded {kind : Prerequisite} {install : Procedure Unit}
    (hneeded : ctx.config.force = true ∨ v.probe kind.binary = none) :
    ∃ y, (ctx.whenNeeded kind install).Reaches (m.withServices v) (Untouched x) x install y := by
  have hx : Untouched x x := ⟨rfl, rfl⟩
  rw [Context.whenNeeded_eq]
  cases hprobe : v.probe kind.binary with
  | none =>
      obtain ⟨y, hlog⟩ := reaches_log (m := m) (v := v) .debug .steps
        (kind.binary ++ " not found on PATH") install hx
      exact ⟨y, .trans (reaches_ask rfl (congrArg (·, x) hprobe) hx hx) hlog⟩
  | some path =>
      have hforce : ctx.config.force = true := hneeded.resolve_right (by simp [hprobe])
      obtain ⟨y, hlog⟩ := reaches_log (m := m) (v := v) .debug .steps
        ("Reinstalling " ++ kind.binary ++ " at " ++ path.text ++ " (--force)") install hx
      refine ⟨y, .trans (reaches_ask rfl (congrArg (·, x) hprobe) hx hx) ?_⟩
      show ((if ctx.config.force then _ else _ : Procedure Bool).bind _).Reaches _ _ _ _ _
      rw [if_pos hforce]
      exact hlog

/-! ## §4. The parts of the step. -/

namespace NodeJs

/-- The script is run, and Node.js is installed from what it has set up. -/
def runScript (ctx : Context) (path : Path) : Procedure Unit :=
  (Procedure.run (ctx.elevated "bash" [path.text])).bind fun _ => ctx.aptInstall "nodejs"

/-- What follows the answer of the fetcher. -/
def afterFetch (ctx : Context) : Except Failure ByteArray → Procedure Unit
  | .ok body =>
      (tell (.progress ("Downloaded " ++ ctx.settings.nodesourceUrl))).bind fun _ =>
        withFile ctx.scratch "nodesource-setup" ".sh" body (runScript ctx)
  | .error e =>
      (tell (.progress ("Download failed: " ++ ctx.settings.nodesourceUrl))).bind fun _ => .fail e

/-- **The download, and what follows it.** -/
theorem installFromSource_eq (ctx : Context) :
    installFromSource ctx
      = (step ("Installing Node.js " ++ toString ctx.settings.nodeMajor.toNat
          ++ " from NodeSource")).bind fun _ =>
        (tell (.progress ("Downloading " ++ ctx.settings.nodesourceUrl))).bind fun _ =>
          (fetch ctx.settings.nodesourceUrl).bind (afterFetch ctx) := by
  have hfollows : (download ctx.settings.nodesourceUrl).bind (fun script =>
        withFile ctx.scratch "nodesource-setup" ".sh" script (runScript ctx))
      = (tell (.progress ("Downloading " ++ ctx.settings.nodesourceUrl))).bind fun _ =>
          (fetch ctx.settings.nodesourceUrl).bind (afterFetch ctx) := by
    -- The two sides ask alike, for the message and for the script, and part at the answer.
    refine congrArg (Procedure.ask _) (funext fun _ => ?_)
    refine congrArg (Procedure.ask _) (funext fun answer => ?_)
    cases answer <;> rfl
  exact congrArg (fun rest => (step _).bind fun _ => rest) hfollows

end NodeJs

open NodeJs

/-- **Up to the download nothing is called and nothing is touched.** -/
theorem reaches_fetch (hos : ctx.target.os = .linux)
    (hneeded : ctx.config.force = true ∨ v.probe "node" = none) :
    ∃ y, (NodeJs.install ctx).Reaches (m.withServices v) (Untouched x) x
      ((fetch ctx.settings.nodesourceUrl).bind (afterFetch ctx)) y := by
  have hnode : ctx.config.force = true ∨ v.probe Prerequisite.jsRuntime.binary = none := hneeded
  unfold NodeJs.install
  rw [hos, installFromSource_eq]
  -- The need, the title of the step and the message of the download, one after another.
  obtain ⟨x₁, hneeds⟩ := reaches_whenNeeded (m := m) (x := x) hnode
  obtain ⟨x₂, hstep⟩ := reaches_tell (m := m) (v := v) _ _ hneeds.keeps
  obtain ⟨y, htell⟩ := reaches_tell (m := m) (v := v) _ _ hstep.keeps
  exact ⟨y, hneeds.trans (hstep.trans htell)⟩

/-- A new file is there before anything is done with it. -/
theorem reaches_created {s : ρ × MachineState} {parent path : Path} {before after : String}
    {content : ByteArray} {names : List String} {body : Path → Procedure Unit}
    (hfresh : s.2.files.freshPath m.workingDirectory parent before after m.middles
      = .ok (path, names)) :
    (withFile parent before after content body).Reaches (m.withServices v) (fun _ => True) s
      ((body path).withCleanUp (discard path))
      (s.1, { s.2 with files := s.2.files.insert names (.file content 0o600) }) := by
  have hcreate : m.create s.2 parent before after (.file content 0o600)
      = (.ok path, { s.2 with files := s.2.files.insert names (.file content 0o600) }) := by
    unfold Machine.create
    rw [hfresh]
  have hanswer : m.withServices v (.createFile parent before after content) s = (.ok path,
      (s.1, { s.2 with files := s.2.files.insert names (.file content 0o600) })) :=
    congrArg (fun new => (new.1, (s.1, new.2))) hcreate
  exact reaches_ask (I := fun _ => True) (k := fun r => (Procedure.ofExcept r).bind fun path =>
    (body path).withCleanUp (discard path)) rfl hanswer trivial trivial

/-- Once the new file is gone, the directory holds what it held before there was
one. -/
theorem discard_restores {fs : FileSystem} {p : Path} {there : List String} {mode : Nat}
    {name : String} {e : Entry} {w : ρ × MachineState} (hrooted : fs.Rooted)
    (hdirectory : fs.get? there = some (.directory mode)) (hname : IsStep name)
    (hfree : fs.get? (there ++ [name]) = none)
    (hw : Shows m p there (fs.insert (there ++ [name]) e) w) {other : List String}
    (hother : there <+: other) :
    (m.host (.discard (p.join ⟨name⟩)) w.2).2.files.get? other = fs.get? other := by
  have hself : there ≠ there ++ [name] := by simp
  have hstill : w.2.files.get? there = some (.directory mode) :=
    (hw.holds there (List.prefix_refl _)).trans ((get?_insert hself).trans hdirectory)
  have hthere : w.2.files.resolve m.workingDirectory (p.join ⟨name⟩) = .ok (there ++ [name]) :=
    resolve_step hw.leads hstill hname
  rw [discard_files hthere]
  by_cases hroot : other = []
  · subst hroot
    rfl
  rw [get?_remove _ hroot]
  by_cases hbelow : there ++ [name] <+: other
  · -- Nothing was there, and so nothing below it.
    rw [if_pos (List.isPrefixOf_iff_prefix.mpr hbelow), hrooted.get?_below hfree hbelow]
  · rw [if_neg (fun h => hbelow (List.isPrefixOf_iff_prefix.mp h)), hw.holds other hother]
    refine get?_insert ?_
    rintro rfl
    exact hbelow (List.prefix_refl _)

/-- **The directory holds what it held**, when the commands have been run on a new
file in it, if they do not touch it. -/
theorem script_restores {fs : FileSystem} {there : List String} {mode : Nat} {name : String}
    {e : Entry} {z : ρ × MachineState} (hrooted : fs.Rooted)
    (hscratch : fs.resolve m.workingDirectory (m.seen ctx.scratch) = .ok there)
    (hdirectory : fs.get? there = some (.directory mode)) (hname : IsStep name)
    (hfree : fs.get? (there ++ [name]) = none)
    (hspares : v.Spares m (m.seen ctx.scratch) there
      ((runScript ctx ((m.seen ctx.scratch).join ⟨name⟩)).callMoments (m.withServices v) z))
    (hz : z.2.files = fs.insert (there ++ [name]) e) {other : List String}
    (hother : there <+: other) :
    (((runScript ctx ((m.seen ctx.scratch).join ⟨name⟩)).withCleanUp
        (discard ((m.seen ctx.scratch).join ⟨name⟩))).perform
      (m.withServices v) z).2.2.files.get? other = fs.get? other := by
  have hasks : (runScript ctx ((m.seen ctx.scratch).join ⟨name⟩)).Asks fun r => ∃ c, r = .run c :=
    (asks_run ⟨_, rfl⟩).bind fun _ => asks_run ⟨_, rfl⟩
  have hnew : Shows m (m.seen ctx.scratch) there (fs.insert (there ++ [name]) e) z :=
    ⟨hz ▸ resolve_insert hfree hscratch, fun other _ => by rw [hz]⟩
  -- Both commands keep the directory as it is with the new file.
  have hkept : ∀ q ∈ (runScript ctx ((m.seen ctx.scratch).join ⟨name⟩)).moments
      (m.withServices v) z,
      Shows m (m.seen ctx.scratch) there (fs.insert (there ++ [name]) e) q.2 →
        Shows m (m.seen ctx.scratch) there (fs.insert (there ++ [name]) e)
          (m.withServices v q.1 q.2).2 := by
    rintro ⟨r, y⟩ hq hy
    obtain ⟨c, rfl⟩ := hasks.of_mem_moments _ hq
    exact hspares c y (List.mem_filter.mpr ⟨hq, rfl⟩) _ hy
  rw [perform_withDiscard]
  exact discard_restores hrooted hdirectory hname hfree (perform_keeps_of_moments hkept hnew) hother

/-! ## §5. The whole step. -/

/-- The name of the script, around its new middle. -/
def scriptName (middle : String) : String := "nodesource-setup" ++ middle ++ ".sh"

theorem isStep_scriptName {middle : String} (h : '/' ∉ middle.toList) :
    IsStep (scriptName middle) := by
  have hlist : (scriptName middle).toList
      = "nodesource-setup".toList ++ middle.toList ++ ".sh".toList := by
    unfold scriptName
    rw [String.toList_append, String.toList_append]
  refine isStep_of_length ?_ ?_
  · rw [hlist, List.mem_append, List.mem_append, not_or, not_or]
    exact ⟨⟨by decide, h⟩, by decide⟩
  · rw [hlist, List.length_append, List.length_append]
    exact Nat.lt_of_lt_of_le (by decide : 2 < ".sh".toList.length) (Nat.le_add_left ..)

/-- A failed download ends the step, and nothing is created. -/
theorem fetch_fails {y : ρ × MachineState} {e : Failure}
    (h : (v.fetch ctx.settings.nodesourceUrl y.1).1 = .error e) :
    let rest := (fetch ctx.settings.nodesourceUrl).bind (afterFetch ctx)
    (rest.perform (m.withServices v) y).1 = .error e
      ∧ rest.callMoments (m.withServices v) y = [(.fetch ctx.settings.nodesourceUrl, y)]
      ∧ (rest.perform (m.withServices v) y).2.2.files = y.2.files
      ∧ ∀ q ∈ rest.moments (m.withServices v) y, q.2.2.files = y.2.files := by
  intro rest
  let next := afterFetch ctx (v.fetch ctx.settings.nodesourceUrl y.1).1
  let after : ρ × MachineState := ((v.fetch ctx.settings.nodesourceUrl y.1).2, y.2)
  have hperform : rest.perform (m.withServices v) y = next.perform (m.withServices v) after := rfl
  have hmoments : rest.moments (m.withServices v) y
      = (.fetch ctx.settings.nodesourceUrl, y) :: next.moments (m.withServices v) after := rfl
  have hnext : next = (tell (.progress ("Download failed: "
      ++ ctx.settings.nodesourceUrl))).bind fun _ => .fail e := congrArg (afterFetch ctx) h
  rw [callMoments, hperform, hmoments, hnext]
  refine ⟨rfl, rfl, tell_files (m := m) (.progress ("Download failed: "
    ++ ctx.settings.nodesourceUrl)) y.2, fun q hq => ?_⟩
  rcases List.mem_cons.mp hq with rfl | hq
  · rfl
  · rw [List.mem_singleton.mp hq]

/-- After a download the new file is the next thing that is touched. -/
theorem fetch_succeeds {y : ρ × MachineState} {bytes : ByteArray}
    (h : (v.fetch ctx.settings.nodesourceUrl y.1).1 = .ok bytes) :
    let rest := (fetch ctx.settings.nodesourceUrl).bind (afterFetch ctx)
    let script := withFile ctx.scratch "nodesource-setup" ".sh" bytes (runScript ctx)
    ∃ t, t.2.files = y.2.files
      ∧ rest.perform (m.withServices v) y = script.perform (m.withServices v) t
      ∧ rest.callMoments (m.withServices v) y
        = (.fetch ctx.settings.nodesourceUrl, y) :: script.callMoments (m.withServices v) t := by
  intro rest script
  let next := afterFetch ctx (v.fetch ctx.settings.nodesourceUrl y.1).1
  let after : ρ × MachineState := ((v.fetch ctx.settings.nodesourceUrl y.1).2, y.2)
  have hperform : rest.perform (m.withServices v) y = next.perform (m.withServices v) after := rfl
  have hcalls : rest.callMoments (m.withServices v) y
      = (.fetch ctx.settings.nodesourceUrl, y) :: next.callMoments (m.withServices v) after := rfl
  have hnext : next = (tell (.progress ("Downloaded "
      ++ ctx.settings.nodesourceUrl))).bind fun _ => script := congrArg (afterFetch ctx) h
  obtain ⟨t, htell⟩ := reaches_tell (m := m) (v := v)
    (.progress ("Downloaded " ++ ctx.settings.nodesourceUrl)) script
    (⟨rfl, rfl⟩ : Untouched after after)
  rw [hperform, hcalls, hnext]
  exact ⟨t, htell.keeps.2, htell.perform, congrArg _ htell.callMoments_eq⟩

/-- A failed download is the result, and the files are never touched. -/
theorem install_fails (hos : ctx.target.os = .linux)
    (hneeded : ctx.config.force = true ∨ v.probe "node" = none) {e : Failure}
    (h : (v.fetch ctx.settings.nodesourceUrl x.1).1 = .error e) :
    ((NodeJs.install ctx).perform (m.withServices v) x).1 = .error e
      ∧ (∃ y, (NodeJs.install ctx).callMoments (m.withServices v) x
          = [(.fetch ctx.settings.nodesourceUrl, y)])
      ∧ (∀ q ∈ (NodeJs.install ctx).moments (m.withServices v) x, q.2.2.files = x.2.files)
      ∧ ((NodeJs.install ctx).perform (m.withServices v) x).2.2.files = x.2.files := by
  obtain ⟨y, hreaches⟩ := reaches_fetch (m := m) (x := x) hos hneeded
  obtain ⟨hsame, hfiles⟩ := hreaches.keeps
  rw [← hsame] at h
  obtain ⟨hresult, hfetch, hafter, hduring⟩ := fetch_fails (m := m) h
  obtain ⟨first, hmoments, hquiet⟩ := hreaches.moments
  rw [hreaches.perform, hreaches.callMoments_eq, hmoments]
  refine ⟨hresult, ⟨y, hfetch⟩, fun q hq => ?_, hafter.trans hfiles⟩
  rcases List.mem_append.mp hq with hq | hq
  · exact (hquiet q hq).2.2
  · exact (hduring q hq).trans hfiles

/-- After a download the step goes on as the two commands do with a new file in
the scratch directory, and removes it after them. -/
theorem install_creates {there : List String} {mode : Nat} {bytes : ByteArray}
    (hos : ctx.target.os = .linux)
    (hneeded : ctx.config.force = true ∨ v.probe "node" = none)
    (hscratch : x.2.files.resolve m.workingDirectory (m.seen ctx.scratch) = .ok there)
    (hdirectory : x.2.files.get? there = some (.directory mode))
    (hmiddles : ∀ a ∈ m.middles, '/' ∉ a.toList)
    (hfree : ∃ a ∈ m.middles, x.2.files.get? (there ++ [scriptName a]) = none)
    (h : (v.fetch ctx.settings.nodesourceUrl x.1).1 = .ok bytes) :
    ∃ a ∈ m.middles, ∃ y z,
      let path := (m.seen ctx.scratch).join ⟨scriptName a⟩
      let script := (runScript ctx path).withCleanUp (discard path)
      x.2.files.get? (there ++ [scriptName a]) = none
        ∧ z.2.files = x.2.files.insert (there ++ [scriptName a]) (.file bytes 0o600)
        ∧ (NodeJs.install ctx).perform (m.withServices v) x = script.perform (m.withServices v) z
        ∧ (NodeJs.install ctx).callMoments (m.withServices v) x
          = (.fetch ctx.settings.nodesourceUrl, y) :: script.callMoments (m.withServices v) z := by
  obtain ⟨y, hreaches⟩ := reaches_fetch (m := m) (x := x) hos hneeded
  obtain ⟨hsame, hfiles⟩ := hreaches.keeps
  rw [← hsame] at h
  obtain ⟨t, htfiles, hperform, hcalls⟩ := fetch_succeeds (m := m) h
  obtain ⟨a, ha, hnone, hfresh⟩ := freshPath_of_free hscratch hdirectory
    (fun a ha => isStep_scriptName (hmiddles a ha)) hfree
  rw [← hfiles, ← htfiles] at hfresh
  -- What the download has left is the files as they were, so the name is still free.
  have hcreated : (withFile ctx.scratch "nodesource-setup" ".sh" bytes (runScript ctx)).Reaches
      (m.withServices v) (fun _ => True) t _ _ := reaches_created hfresh
  refine ⟨a, ha, y, _, hnone, ?_, hreaches.perform.trans (hperform.trans hcreated.perform),
    (hreaches.callMoments_eq.trans hcalls).trans (congrArg _ hcreated.callMoments_eq)⟩
  rw [htfiles, hfiles]
  rfl

/-- **The script that runs is the downloaded one, and it does not outlive the
step.**  Where Node.js is missing or is installed again on Linux, the address of
the script is asked for once.  A failed download is the result: nothing is run,
and the files are never touched.  Otherwise the first command is the shell on one
file directly in the scratch directory, which holds exactly what was downloaded
when the command starts; Node.js is installed after it if and only if the shell
succeeds; and the result is that of the last command.  Wherever the step ends,
the scratch directory holds what it held before, if the commands do not touch
it. -/
theorem install_runs_script (m : Machine) (v : Services ρ) (ctx : Context)
    (x : ρ × MachineState) (there : List String) (mode : Nat)
    (hos : ctx.target.os = .linux)
    (hneeded : ctx.config.force = true ∨ v.probe "node" = none)
    (hrooted : x.2.files.Rooted)
    (hscratch : x.2.files.resolve m.workingDirectory (m.seen ctx.scratch) = .ok there)
    (hdirectory : x.2.files.get? there = some (.directory mode))
    (hmiddles : ∀ a ∈ m.middles, '/' ∉ a.toList)
    (hfree : ∃ a ∈ m.middles, x.2.files.get? (there ++ [scriptName a]) = none) :
    let host := m.withServices v
    let install := NodeJs.install ctx
    let url := ctx.settings.nodesourceUrl
    let apt := ctx.elevated "apt-get" ["install", "-y", "nodejs"]
    (∀ e, (v.fetch url x.1).1 = .error e →
        (install.perform host x).1 = .error e
          ∧ (∃ y, install.callMoments host x = [(.fetch url, y)])
          ∧ (∀ q ∈ install.moments host x, q.2.2.files = x.2.files)
          ∧ (install.perform host x).2.2.files = x.2.files)
      ∧ (∀ bytes, (v.fetch url x.1).1 = .ok bytes →
        ∃ a ∈ m.middles, ∃ y z,
          let path := (m.seen ctx.scratch).join ⟨scriptName a⟩
          let bash := ctx.elevated "bash" [path.text]
          install.callMoments host x
              = (.fetch url, y) :: (.run bash, z)
                :: (if (v.run bash z).1.isOk then [(.run apt, (v.run bash z).2)] else [])
            ∧ z.2.files.resolve m.workingDirectory path = .ok (there ++ [scriptName a])
            ∧ z.2.files.read m.workingDirectory path = .ok bytes
            ∧ (install.perform host x).1
              = ((v.run bash z).1.bind fun _ => (v.run apt (v.run bash z).2).1))
      ∧ (v.Spares m (m.seen ctx.scratch) there (install.callMoments host x) →
        ∀ other, there <+: other →
          (install.perform host x).2.2.files.get? other = x.2.files.get? other) := by
  intro host install url apt
  refine ⟨fun e h => install_fails hos hneeded h, ?succeeds, ?restores⟩
  case succeeds =>
    intro bytes h
    obtain ⟨a, ha, y, z, hnone, hz, hperform, hcalls⟩ :=
      install_creates hos hneeded hscratch hdirectory hmiddles hfree h
    have hleads : z.2.files.resolve m.workingDirectory ((m.seen ctx.scratch).join ⟨scriptName a⟩)
        = .ok (there ++ [scriptName a]) := by
      rw [hz]
      exact resolve_insert hnone
        (resolve_step hscratch hdirectory (isStep_scriptName (hmiddles a ha)))
    obtain ⟨hresult, hcommands⟩ := perform_runThen host
      (ctx.elevated "bash" [((m.seen ctx.scratch).join ⟨scriptName a⟩).text]) apt z
    have hfile : z.2.files.get? (there ++ [scriptName a]) = some (.file bytes 0o600) := by
      rw [hz, get?_insert_self _ _ (by simp)]
    refine ⟨a, ha, y, z, ?_, hleads, read_of_resolve hleads hfile, ?_⟩
    · rw [hcalls, callMoments_withCleanUp]
      exact congrArg _ hcommands
    · rw [hperform, perform_withDiscard]
      exact hresult
  case restores =>
    intro hspares other hother
    cases hanswer : (v.fetch url x.1).1 with
    | error e => rw [(install_fails hos hneeded hanswer).2.2.2]
    | ok bytes =>
        obtain ⟨a, ha, y, z, hnone, hz, hperform, hcalls⟩ :=
          install_creates hos hneeded hscratch hdirectory hmiddles hfree hanswer
        -- The commands are those of the script and what follows it.
        rw [hcalls, callMoments_withCleanUp] at hspares
        rw [hperform]
        exact script_restores hrooted hscratch hdirectory
          (isStep_scriptName (hmiddles a ha)) hnone
          (fun c w hc => hspares c w (List.mem_cons_of_mem _ hc)) hz hother

end Steps

/-- The script is served, and every program but the shell fails. -/
def brokenApt : Services Unit where
  run c x := (if c.program = "bash" then .ok () else .error (c.failure (some 100)), x)
  fetch _ u := (.ok "#!/bin/sh\n".toUTF8, u)
  probe _ := none

/-- The shell meets the script that was served, and although Node.js cannot be
installed after it the script is gone in the end. -/
theorem install_runs_script_bare :
    let host := bareMachine.withServices brokenApt
    let install := NodeJs.install NativeBuild.scratchContext
    let bash : Command := ⟨"bash", ["/tmp/nodesource-setupXy3.sh"], none⟩
    let apt : Command := ⟨"apt-get", ["install", "-y", "nodejs"], none⟩
    (∃ y z, install.callMoments host ((), bareState)
          = [(.fetch "https://deb.nodesource.com/setup_14.x", y), (.run bash, z), (.run apt, z)]
        ∧ z.2.files.read [] ⟨"/tmp/nodesource-setupXy3.sh"⟩ = .ok "#!/bin/sh\n".toUTF8)
      ∧ (install.perform host ((), bareState)).1 = .error (apt.failure (some 100))
      ∧ (install.perform host ((), bareState)).2.2.files.get? ["tmp", "nodesource-setupXy3.sh"]
        = none := by
  intro host install bash apt
  obtain ⟨-, hsucceeds, hrestores⟩ := install_runs_script bareMachine brokenApt
    NativeBuild.scratchContext ((), bareState) ["tmp"] 0o777 rfl (.inr rfl) rooted_bareState
    (by decide +kernel) rfl (by decide) ⟨"Xy3", List.mem_singleton_self _, by decide +kernel⟩
  obtain ⟨a, ha, y, z, hcalls, -, hread, hresult⟩ := hsucceeds _ rfl
  obtain rfl := List.mem_singleton.mp ha
  have hpath : (bareMachine.seen NativeBuild.scratchContext.scratch).join ⟨scriptName "Xy3"⟩
      = ⟨"/tmp/nodesource-setupXy3.sh"⟩ := by decide +kernel
  rw [hpath] at hcalls hread hresult
  refine ⟨⟨y, z, hcalls, hread⟩, hresult, ?_⟩
  -- None of these commands changes a file.
  have hspares : brokenApt.Spares bareMachine
      (bareMachine.seen NativeBuild.scratchContext.scratch) ["tmp"]
      (install.callMoments host ((), bareState)) := fun _ _ _ _ h => h
  calc (install.perform host ((), bareState)).2.2.files.get? ["tmp", "nodesource-setupXy3.sh"]
      = bareState.files.get? ["tmp", "nodesource-setupXy3.sh"] :=
        hrestores hspares _ ⟨["nodesource-setupXy3.sh"], rfl⟩
    _ = none := by decide +kernel

end Provision
