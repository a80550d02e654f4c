/-
  Provision.Proofs.SearchOrder
  ────────────────────────────
  **THE ORDER OF A SEARCH PATH.**

  A tool is found in the leftmost component of the search path that holds it,
  and a component holds it if there is a regular file of that name with one of
  the three permissions to execute.  What stands in a component without being
  such a file counts for nothing, so that a search path of two parts is searched
  part by part.

  Main results:

    `isTool_iff`             what is taken for a tool
    `locate_eq_some_iff`     the first directory that holds the tool has it
    `locate_leftmost`        a machine searches its path from left to right
-/
import Provision.Host.Machine
import Provision.Proofs.Pieces

namespace Provision

open Text

/-! ## §1. What is taken for a tool. -/

/-- Two numbers have something in common iff a bit is set in both. -/
theorem and_ne_zero_iff {a b : Nat} :
    a &&& b ≠ 0 ↔ ∃ i, a.testBit i = true ∧ b.testBit i = true := by
  constructor
  · intro h
    obtain ⟨i, hi⟩ := Nat.exists_testBit_of_ne_zero h
    rw [Nat.testBit_and, Bool.and_eq_true] at hi
    exact ⟨i, hi⟩
  · rintro ⟨i, ha, hb⟩ hzero
    have hcommon : (a &&& b).testBit i = true := by
      rw [Nat.testBit_and, ha, hb]
      rfl
    rw [hzero, Nat.zero_testBit] at hcommon
    cases hcommon

/-- The bits of the three permissions to execute. -/
theorem testBit_execute (i : Nat) :
    (0o111 : Nat).testBit i = true ↔ i = 0 ∨ i = 3 ∨ i = 6 := by
  by_cases hi : i < 7
  · have hbits : ∀ i < 7, (0o111 : Nat).testBit i = true ↔ i = 0 ∨ i = 3 ∨ i = 6 := by decide
    exact hbits i hi
  · -- The mask has no more than seven bits.
    have hsmall : (0o111 : Nat) < 2 ^ i :=
      calc (0o111 : Nat) < 2 ^ 7 := by decide
        _ ≤ 2 ^ i := Nat.pow_le_pow_right (by decide) (by omega)
    rw [Nat.testBit_lt_two_pow hsmall]
    simp only [Bool.false_eq_true, false_iff]
    omega

/-- An entry may be executed iff one of the three permissions is given. -/
theorem execute_ne_zero_iff (mode : Nat) :
    mode &&& 0o111 ≠ 0
      ↔ mode.testBit 0 = true ∨ mode.testBit 3 = true ∨ mode.testBit 6 = true := by
  rw [and_ne_zero_iff]
  simp only [testBit_execute]
  constructor
  · rintro ⟨i, hbit, rfl | rfl | rfl⟩
    · exact .inl hbit
    · exact .inr (.inl hbit)
    · exact .inr (.inr hbit)
  · rintro (h | h | h)
    · exact ⟨0, h, .inl rfl⟩
    · exact ⟨3, h, .inr (.inl rfl)⟩
    · exact ⟨6, h, .inr (.inr rfl)⟩

namespace FileSystem

/-- Under the path there is a regular file that its owner, its group or anybody
may execute. -/
def HoldsTool (fs : FileSystem) (cwd : List String) (p : Path) : Prop :=
  ∃ content mode, fs.lookup cwd p = .ok (.file content mode)
    ∧ (mode.testBit 0 = true ∨ mode.testBit 3 = true ∨ mode.testBit 6 = true)

/-- **What is taken for a tool**: neither a directory nor a file without a
permission to execute is. -/
theorem isTool_iff {fs : FileSystem} {cwd : List String} {p : Path} :
    fs.isTool cwd p = true ↔ fs.HoldsTool cwd p := by
  unfold isTool HoldsTool
  cases hlookup : fs.lookup cwd p with
  | error fault => simp
  | ok entry =>
      cases entry with
      | directory mode => simp
      | file content mode =>
          show (mode &&& 0o111 != 0) = true ↔ _
          rw [bne_iff_ne, execute_ne_zero_iff]
          constructor
          · exact fun h => ⟨content, mode, rfl, h⟩
          · rintro ⟨_, _, heq, h⟩
            cases heq
            exact h

theorem isTool_eq_false_iff {fs : FileSystem} {cwd : List String} {p : Path} :
    fs.isTool cwd p = false ↔ ¬ fs.HoldsTool cwd p := by
  rw [← isTool_iff, Bool.not_eq_true]

/-! ## §2. The first directory that holds a tool. -/

/-- **The first directory that holds the tool has it.** -/
theorem locate_eq_some_iff {fs : FileSystem} {cwd : List String} {ds : List Path} {tool : String}
    {p : Path} :
    fs.locate cwd ds tool = some p ↔
      ∃ front d back, ds = front ++ d :: back ∧ p = d.join ⟨tool⟩ ∧ fs.HoldsTool cwd p
        ∧ ∀ e ∈ front, ¬ fs.HoldsTool cwd (e.join ⟨tool⟩) := by
  induction ds with
  | nil =>
      constructor
      · intro h
        cases h
      · rintro ⟨front, d, back, hnil, -⟩
        exact absurd hnil.symm (List.append_ne_nil_of_right_ne_nil _ (List.cons_ne_nil d back))
  | cons first ds ih =>
      rw [locate, List.map_cons, List.find?_cons]
      cases hfirst : fs.isTool cwd (first.join ⟨tool⟩) with
      | true =>
          -- The search ends here, and nothing is in front.
          constructor
          · intro h
            obtain rfl := Option.some.inj h
            exact ⟨[], first, ds, rfl, rfl, isTool_iff.mp hfirst, fun e he => by cases he⟩
          · rintro ⟨front, d, back, hds, rfl, -, hfront⟩
            cases front with
            | nil =>
                injection hds with hd
                rw [hd]
            | cons e front =>
                injection hds with he
                subst he
                exact absurd (isTool_iff.mp hfirst) (hfront _ (List.mem_cons_self ..))
      | false =>
          -- The search goes on, and this directory is one of those in front.
          have hnot := isTool_eq_false_iff.mp hfirst
          refine Iff.trans ih ?_
          constructor
          · rintro ⟨front, d, back, rfl, hp, hholds, hfront⟩
            refine ⟨first :: front, d, back, rfl, hp, hholds, ?_⟩
            exact List.forall_mem_cons.mpr ⟨hnot, hfront⟩
          · rintro ⟨front, d, back, hds, rfl, hholds, hfront⟩
            cases front with
            | nil =>
                injection hds with hd
                subst hd
                exact absurd hholds hnot
            | cons e front =>
                injection hds with _ hds
                exact ⟨front, d, back, hds, rfl, hholds,
                  fun e he => hfront e (List.mem_cons_of_mem _ he)⟩

end FileSystem

/-! ## §3. Search paths. -/

namespace Path

/-- The directories of two search paths with a colon in between. -/
theorem searchPath_append (first second : String) :
    searchPath (some (first ++ ":" ++ second))
      = searchPath (some first) ++ searchPath (some second) := by
  show (pieces ':' (first ++ String.singleton ':' ++ second)).map Path.mk = _
  rw [pieces_append, List.map_append]
  rfl

/-- An empty component stands for the working directory: what is looked for
below it has its own name for a path. -/
theorem empty_join (p : Path) : (⟨""⟩ : Path).join p = p := by
  unfold join
  split
  · rfl
  · show (⟨"" ++ p.text⟩ : Path) = p
    rw [String.empty_append]

end Path

namespace Machine

/-- The machine with another search path. -/
def searching (m : Machine) (path : Option String) : Machine := { m with searchPath := path }

/-- Where the machine finds a tool. -/
abbrev find (m : Machine) (s : MachineState) (tool : String) : Option Path :=
  (m.host (.locate tool) s).1

/-- Under the path the machine has a tool. -/
abbrev Holds (m : Machine) (s : MachineState) (p : Path) : Prop :=
  s.files.HoldsTool m.workingDirectory p

end Machine

/-- **A machine searches its path from left to right.**  It finds a tool in the
leftmost component that holds it, and finds nothing iff no component does or
there is no search path.  Two search paths with a colon in between are searched
one after the other: nothing in the first that is no tool hides one in the
second.  An empty component is the working directory. -/
theorem locate_leftmost (m : Machine) (s : MachineState) (tool : String) :
    (∀ p, m.find s tool = some p ↔
        ∃ path front d back, m.searchPath = some path ∧ Cut ':' path (front ++ d :: back)
          ∧ p = (⟨d⟩ : Path).join ⟨tool⟩ ∧ m.Holds s p
          ∧ ∀ e ∈ front, ¬ m.Holds s ((⟨e⟩ : Path).join ⟨tool⟩))
      ∧ (m.find s tool = none ↔
          m.searchPath = none ∨ ∃ path ds, m.searchPath = some path ∧ Cut ':' path ds
            ∧ ∀ d ∈ ds, ¬ m.Holds s ((⟨d⟩ : Path).join ⟨tool⟩))
      ∧ (s.files.isPresent m.workingDirectory (Path.searchPath m.searchPath) tool = true ↔
          ∃ p, m.find s tool = some p)
      ∧ (∀ first second : String, (m.searching (some (first ++ ":" ++ second))).find s tool
          = ((m.searching (some first)).find s tool).or ((m.searching (some second)).find s tool))
      ∧ (⟨""⟩ : Path).join ⟨tool⟩ = ⟨tool⟩
      ∧ (m.host (.locate tool) s).2 = s := by
  refine ⟨?found, ?missing, ?present, ?parts, Path.empty_join ⟨tool⟩, rfl⟩
  case found =>
    intro p
    show s.files.locate m.workingDirectory (Path.searchPath m.searchPath) tool = some p ↔ _
    rw [FileSystem.locate_eq_some_iff]
    cases m.searchPath with
    | none => simp [Path.searchPath]
    | some path =>
        constructor
        · rintro ⟨front, d, back, hds, hp, hholds, hfront⟩
          -- The directories are the components, each of them as a path.
          obtain ⟨front', rest, hcut, rfl, hrest⟩ := List.map_eq_append_iff.mp hds
          obtain ⟨d', back', rfl, rfl, rfl⟩ := List.map_eq_cons_iff.mp hrest
          refine ⟨path, front', d', back', rfl, cut_iff.mpr hcut, hp, hholds, ?_⟩
          exact fun e he => hfront _ (List.mem_map_of_mem he)
        · rintro ⟨_, front, d, back, hpath, hcut, hp, hholds, hfront⟩
          obtain rfl := Option.some.inj hpath
          refine ⟨front.map Path.mk, ⟨d⟩, back.map Path.mk, ?_, hp, hholds, ?_⟩
          · rw [Path.searchPath, cut_iff.mp hcut, List.map_append, List.map_cons]
          · intro e he
            obtain ⟨e', he', rfl⟩ := List.mem_map.mp he
            exact hfront e' he'
  case missing =>
    show s.files.locate m.workingDirectory (Path.searchPath m.searchPath) tool = none ↔ _
    rw [FileSystem.locate_eq_none]
    cases m.searchPath with
    | none => simp [Path.searchPath]
    | some path =>
        simp only [Path.searchPath, List.forall_mem_map, FileSystem.isTool_eq_false_iff]
        constructor
        · exact fun h => .inr ⟨path, pieces ':' path, rfl, cut_pieces ':' path, h⟩
        · rintro (h | ⟨_, ds, hpath, hcut, hds⟩)
          · cases h
          · obtain rfl := Option.some.inj hpath
            rw [cut_iff.mp hcut]
            exact hds
  case present => exact Option.isSome_iff_exists
  case parts =>
    intro first second
    show s.files.locate m.workingDirectory (Path.searchPath (some (first ++ ":" ++ second))) tool
      = _
    rw [Path.searchPath_append, FileSystem.locate_append]
    rfl

/-- A directory and a file that nobody may execute stand in front of a tool. -/
example :
    (({ searchPath := some "/opt:/srv:/usr/bin" } : Machine).find
      { files := ⟨[(["opt"], .directory 0o755), (["opt", "node"], .directory 0o755),
        (["srv"], .directory 0o755), (["srv", "node"], .file ByteArray.empty 0o644),
        (["usr"], .directory 0o755), (["usr", "bin"], .directory 0o755),
        (["usr", "bin", "node"], .file ByteArray.empty 0o755)]⟩ } "node")
      = some ⟨"/usr/bin/node"⟩ := by
  decide +kernel

end Provision
