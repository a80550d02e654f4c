/-
  Provision.Proofs.BuildRemains
  ─────────────────────────────
  **WHAT A BUILD OF THE NATIVE LIBRARY LEAVES BEHIND.**

  A build works in a new directory that is removed after it.  The tarball and
  the sources go there under names that are made from the name and the version
  of the library, both of which a settings file can give.  As long as the name
  of the source directory is relative and never climbs, whatever the commands
  create lies in the new directory, so that nothing is left, wherever the build
  ends.

  A name that begins at the root replaces the directory that it is joined to.
  The download then goes where the name says, and nothing removes it.

  Main results:

    `sameOutside_commands`   the commands of a build change things in its directory only
    `build_restores`         a build leaves the files as they were
    `build_leaves_tarball`   a name that begins at the root leaves its download behind
-/
import Provision.Proofs.Asked
import Provision.Proofs.Confinement
import Provision.Proofs.Rehearsal

namespace Provision

open Procedure FileSystem Text

/-! ## §1. Runners that keep to their places. -/

/-- Where a command may change something: `wget` at its target, `tar` in the
directory it unpacks to, every other command in the directory it runs in. -/
def Command.reach? (c : Command) : Option Path :=
  match c.program, c.arguments with
  | "wget", [_, "-O", target] => some ⟨target⟩
  | "tar", [_, _, "-C", directory] => some ⟨directory⟩
  | _, _ => c.directory

/-- A runner with a state of its own, that may change the machine. -/
abbrev Runner (ρ : Type) := Command → ρ × MachineState → Except Failure Unit × (ρ × MachineState)

section Runners

variable {ρ : Type}

/-- The runner changes files only at and below the place that a command may
reach, also where it fails. -/
def Runner.Confined (m : Machine) (runner : Runner ρ) : Prop :=
  ∀ c x other, (runner c x).2.2.files.get? other ≠ x.2.files.get? other →
    ∃ p place, c.reach? = some p ∧ x.2.files.resolve m.workingDirectory p = .ok place
      ∧ place <+: other

/-- The machine with another runner. -/
def Machine.withRunner (m : Machine) (runner : Runner ρ) : Host (ρ × MachineState)
  | .run c, x => runner c x
  | r, x => ((m.host r x.2).1, (x.1, (m.host r x.2).2))

/-- A confined runner changes nothing outside a place, if its command reaches
nothing else. -/
theorem Runner.Confined.sameOutside {m : Machine} {runner : Runner ρ} (h : runner.Confined m)
    {c : Command} {x : ρ × MachineState} {place : List String}
    (hreach : ∀ p there, c.reach? = some p →
      x.2.files.resolve m.workingDirectory p = .ok there → place <+: there) :
    SameOutside place x.2.files (runner c x).2.2.files := by
  intro other hother
  by_cases hsame : (runner c x).2.2.files.get? other = x.2.files.get? other
  · exact hsame
  · obtain ⟨p, there, hp, hthere, hbelow⟩ := h c x other hsame
    exact absurd ((hreach p there hp hthere).trans hbelow) hother

/-! ## §2. A new directory around a body. -/

/-- **A directory that takes back all changes**: what the body changes below
the new directory goes with it, whatever the body ends with. -/
theorem withDirectory_restores {α : Type} {m : Machine} {runner : Runner ρ} {parent : Path}
    {before : String} {body : Path → Procedure α} {x : ρ × MachineState}
    (hrooted : x.2.files.Rooted)
    (hbody : ∀ path names y, (∀ z : ρ × MachineState, SameOutside names x.2.files z.2.files →
        z.2.files.resolve m.workingDirectory path = .ok names) →
      SameOutside names x.2.files y.2.files →
        SameOutside names x.2.files ((body path).perform (m.withRunner runner) y).2.2.files)
    (place : List String) :
    ((withDirectory parent before body).perform (m.withRunner runner) x).2.2.files.get? place
      = x.2.files.get? place := by
  show (((ofExcept (m.create x.2 parent before "" (.directory 0o700)).1).bind fun path =>
      (body path).withCleanUp (discard path)).perform (m.withRunner runner)
    (x.1, (m.create x.2 parent before "" (.directory 0o700)).2)).2.2.files.get? place = _
  unfold Machine.create
  cases hfresh : x.2.files.freshPath m.workingDirectory parent before "" m.middles with
  | error f => rfl
  | ok new =>
      obtain ⟨path, names⟩ := new
      obtain ⟨hresolve, hfree, mode, hparent⟩ := freshPath_eq_ok hfresh
      have hbelow : ∀ other, names <+: other → x.2.files.get? other = none :=
        fun other => hrooted.get?_below hfree
      have hthere : ∀ z : ρ × MachineState, SameOutside names x.2.files z.2.files →
          z.2.files.resolve m.workingDirectory path = .ok names :=
        fun z hz => resolve_sameOutside hbelow hz hresolve
      have hdone := hbody path names
        (x.1, { x.2 with files := x.2.files.insert names (.directory 0o700) }) hthere
        (sameOutside_insert _ _ _)
      show (((body path).withCleanUp (discard path)).perform (m.withRunner runner)
        (x.1, { x.2 with files := x.2.files.insert names (.directory 0o700) })).2.2.files.get? place
          = _
      rw [perform_withCleanUp]
      generalize (body path).perform (m.withRunner runner)
        (x.1, { x.2 with files := x.2.files.insert names (.directory 0o700) }) = result at hdone
      obtain ⟨r, z⟩ := result
      -- The path still leads to the new directory, wherever the body has ended.
      show (m.host (.discard path) z.2).2.files.get? place = _
      rw [discard_files (hthere z hdone)]
      exact remove_sameOutside hbelow hdone place

/-! ## §3. The names of a library. -/

namespace NativeLibrary

/-- The name of the source directory is relative and never climbs. -/
def StaysBelow (l : NativeLibrary) : Prop :=
  (⟨l.dirName⟩ : Path).isAbsolute = false ∧ neverClimbs 0 (pieces '/' l.dirName) = true

instance (l : NativeLibrary) : Decidable l.StaysBelow := inferInstanceAs (Decidable (_ ∧ _))

/-- With the name of the source directory, that of the tarball stays below too:
its last piece ends in that of a tarball, and is no step upwards. -/
theorem StaysBelow.tarball {l : NativeLibrary} (h : l.StaysBelow) :
    (⟨l.tarballName⟩ : Path).isAbsolute = false
      ∧ neverClimbs 0 (pieces '/' l.tarballName) = true := by
  have htext : l.tarballName.toList = l.dirName.toList ++ ".tar.gz".toList :=
    String.toList_append
  constructor
  · have hne : l.dirName.toList ≠ [] := by
      unfold dirName
      rw [String.toList_append, String.toList_append]
      simp
    obtain ⟨c, cs, hcs⟩ := List.exists_cons_of_ne_nil hne
    have habsolute := h.1
    unfold Path.isAbsolute at habsolute ⊢
    rw [htext]
    rw [hcs] at habsolute ⊢
    exact habsolute
  · obtain ⟨front, last, hdir, htarball⟩ :=
      splitAll_append_last (show '/' ∉ ".tar.gz".toList by decide) l.dirName.toList
    have hclimbs := h.2
    unfold pieces at hclimbs ⊢
    rw [hdir, List.map_append] at hclimbs
    rw [htext, htarball, List.map_append]
    refine neverClimbs_last (fun heq => ?_) hclimbs
    have hlength := congrArg (fun name : String => name.toList.length) heq
    simp at hlength

end NativeLibrary

/-! ## §4. A build. -/

namespace NativeBuild

/-- The commands of a build reach the tarball, the directory of the build and
the sources. -/
theorem reach_commands {privilege : Option String} {l : NativeLibrary} {dir : Path} {c : Command}
    (hc : c ∈ commands privilege l dir) {p : Path} (hp : c.reach? = some p) :
    p = dir.join ⟨l.tarballName⟩ ∨ p = dir ∨ p = dir.join ⟨l.dirName⟩ := by
  simp only [commands, List.mem_cons, List.not_mem_nil, or_false] at hc
  rcases hc with rfl | rfl | rfl | rfl | rfl
  · exact .inl (Option.some.inj hp).symm
  · exact .inr (.inl (Option.some.inj hp).symm)
  · exact .inr (.inr (Option.some.inj hp).symm)
  · exact .inr (.inr (Option.some.inj hp).symm)
  · -- A prefix takes the place of the program, and may have any name.
    cases privilege with
    | none => exact .inr (.inr (Option.some.inj hp).symm)
    | some program =>
        unfold Command.reach? at hp
        split at hp
        · rename_i harguments
          rw [Command.elevated_some] at harguments
          simp at harguments
        · rename_i harguments
          rw [Command.elevated_some] at harguments
          simp at harguments
        · exact .inr (.inr (Option.some.inj hp).symm)

/-- **The commands of a build change things in its directory only.** -/
theorem sameOutside_commands {m : Machine} {runner : Runner ρ} (hrunner : runner.Confined m)
    {ctx : Context} {l : NativeLibrary} (hl : l.StaysBelow) {dir : Path} {names : List String}
    {files : FileSystem}
    (hthere : ∀ z : ρ × MachineState, SameOutside names files z.2.files →
      z.2.files.resolve m.workingDirectory dir = .ok names)
    {c : Command} (hc : c ∈ commands ctx.target.privilege l dir) {y : ρ × MachineState}
    (hy : SameOutside names files y.2.files) :
    SameOutside names files (runner c y).2.2.files := by
  refine hy.trans (hrunner.sameOutside fun p there hp hplace => ?_)
  have hdir := hthere y hy
  rcases reach_commands hc hp with rfl | rfl | rfl
  · exact prefix_of_resolve_join hl.tarball.1 hl.tarball.2 hdir hplace
  · rw [hdir] at hplace
    obtain rfl := Except.ok.inj hplace
    exact List.prefix_refl _
  · exact prefix_of_resolve_join hl.1 hl.2 hdir hplace

/-- **A build leaves the files as they were**, wherever it ends, if the name of
the source directory stays below. -/
theorem build_restores (m : Machine) (runner : Runner ρ) (ctx : Context) (l : NativeLibrary)
    (x : ρ × MachineState) (hrunner : runner.Confined m) (hl : l.StaysBelow)
    (hrooted : x.2.files.Rooted) (place : List String) :
    ((build ctx l).perform (m.withRunner runner) x).2.2.files.get? place
      = x.2.files.get? place := by
  refine withDirectory_restores hrooted (fun dir names y hthere hy => ?_) place
  -- The body runs the commands of the build, and tells the user.
  refine Asks.perform_keeps (I := fun z : ρ × MachineState => SameOutside names x.2.files z.2.files)
    (R := fun r => (∃ n, r = .tell n) ∨ ∃ c ∈ commands ctx.target.privilege l dir, r = .run c)
    ?_ ?_ hy
  · rintro r z (⟨n, rfl⟩ | ⟨c, hc, rfl⟩) hz
    · show SameOutside names x.2.files (m.host (.tell n) z.2).2.files
      rw [tell_files]
      exact hz
    · exact sameOutside_commands hrunner hl hthere hc hz
  · have htell : ∀ n, (tell n).Asks fun r => (∃ n, r = .tell n)
        ∨ ∃ c ∈ commands ctx.target.privilege l dir, r = .run c :=
      fun n => asks_ask (.inl ⟨n, rfl⟩) asks_done
    exact (htell _).bind fun _ =>
      (asks_forM_run fun c hc => .inr ⟨c, hc, rfl⟩).bind fun _ => htell _

end NativeBuild

end Runners

/-! ## §5. A download that fails halfway. -/

/-- A runner whose `wget` fails when it has left its target. -/
def failingDownload : Runner Unit := fun c x =>
  match c.program, c.arguments with
  | "wget", [_, "-O", target] =>
      (.error (c.failure (some 4)),
        (x.1, { x.2 with files := x.2.files.writeFile [] ⟨target⟩ ByteArray.empty }))
  | _, _ => (.ok (), x)

/-- A file is put where its path leads, or nowhere. -/
theorem writeFile_changes {fs : FileSystem} {cwd other : List String} {p : Path}
    {content : ByteArray} (h : (fs.writeFile cwd p content).get? other ≠ fs.get? other) :
    ∃ place, fs.resolve cwd p = .ok place ∧ place <+: other := by
  unfold FileSystem.writeFile at h
  split at h
  case h_2 => exact absurd rfl h
  case h_1 names hresolve =>
    split at h
    case h_2 => exact absurd rfl h
    case h_1 =>
      refine ⟨names, hresolve, ?_⟩
      by_cases hother : other = names
      · subst hother
        exact List.prefix_refl _
      · exact absurd (get?_insert hother) h

theorem confined_failingDownload : failingDownload.Confined bareMachine := by
  intro c x other h
  obtain ⟨program, arguments, directory⟩ := c
  unfold failingDownload at h
  dsimp only at h
  split at h
  · -- The one command that leaves something is the download.
    obtain ⟨place, hresolve, hbelow⟩ := writeFile_changes h
    exact ⟨_, place, rfl, hresolve, hbelow⟩
  · exact absurd rfl h

theorem rooted_bareState : bareState.files.Rooted := by
  intro p hp
  rw [List.mem_singleton.mp hp]
  exact ⟨_, rfl⟩

namespace NativeBuild

/-- A run whose scratch directory is the one of the bare machine. -/
def scratchContext : Context := { (default : Context) with scratch := ⟨"/tmp"⟩ }

/-- The tarball of a library with a plain name goes with its directory. -/
theorem build_restores_download :
    ((build scratchContext {}).perform (bareMachine.withRunner failingDownload)
        ((), bareState)).2.2.files.get? ["tmp", "libgit2-1.3.0Xy3", "libgit2-1.3.0.tar.gz"]
      = none :=
  build_restores bareMachine failingDownload scratchContext {} ((), bareState)
    confined_failingDownload (by decide) rooted_bareState _

/-- **A name that begins at the root leaves its download behind**: the tarball
is not below the directory that is removed. -/
theorem build_leaves_tarball :
    failingDownload.Confined bareMachine ∧ bareState.files.Rooted
      ∧ ((build scratchContext { name := "/tmp/evil" }).perform
          (bareMachine.withRunner failingDownload) ((), bareState)).2.2.files.get?
            ["tmp", "evil-1.3.0.tar.gz"]
        ≠ bareState.files.get? ["tmp", "evil-1.3.0.tar.gz"] := by
  refine ⟨confined_failingDownload, rooted_bareState, fun hsame => ?_⟩
  have hleft := congrArg Option.isSome hsame
  revert hleft
  decide +kernel

end NativeBuild

end Provision
