/-
  Provision.Proofs.EmittedTokens
  ──────────────────────────────
  **WHAT A LEXER EMITS.**

  The lexer delivers a token only when it can no longer begin a key, so that
  a token may still wait when the next line is read.  A state is `Ready` for
  a line whether a token waits or not: the tokens that wait come first, and
  then those of the line.

  Main results:

    `Emits.trans`         what two parts emit is emitted by the whole
    `emits_deliver`       tokens that begin no key are delivered
    `Ready.emits_first`   the first token of a line is read after what waits
-/
import Provision.Proofs.ScalarTexts

namespace Provision.Yaml

/-! ## §1. What a state emits. -/

namespace Lexer

/-- A bound for the steps that are left: every character is good for eight of
them, and every open block and every waiting token for one. -/
def potential (s : Lexer) : Nat := 8 * s.cursor.rest.length + s.blocks.length + s.queue.length

/-- The tokens from `s` on are `V`, and then those from `s'` on. -/
def Emits (s : Lexer) (V : List Token) (s' : Lexer) : Prop :=
  ∃ ts k, ts.map Located.value = V ∧ k + s'.potential ≤ s.potential
    ∧ ∀ n, run (n + k) s = (ts ++ (run n s').1, (run n s').2)

/-- A state emits nothing on the way to itself. -/
theorem emits_refl (s : Lexer) : Emits s [] s :=
  ⟨[], 0, rfl, by omega, fun _ => rfl⟩

/-- **What two parts emit is emitted by the whole.** -/
theorem Emits.trans {s t u : Lexer} {V W : List Token} (h : Emits s V t) (h' : Emits t W u) :
    Emits s (V ++ W) u := by
  obtain ⟨ts, k, rfl, hk, hrun⟩ := h
  obtain ⟨ts', k', rfl, hk', hrun'⟩ := h'
  refine ⟨ts ++ ts', k' + k, List.map_append, by omega, fun n => ?_⟩
  rw [← Nat.add_assoc, hrun, hrun', List.append_assoc]

/-! ## §2. Keys that wait. -/

/-- No key that waits is given up at the mark. -/
def Fresh (s : Lexer) : Prop := ∀ k, some k ∈ s.keys → KeyPlace.isStale k s.mark = false

theorem mapM_self {α : Type} {f : α → Except Fault α} {xs : List α} (h : ∀ x ∈ xs, f x = .ok x) :
    xs.mapM f = .ok xs := by
  induction xs with
  | nil => rfl
  | cons x xs ih =>
      rw [List.mapM_cons, h x (List.mem_cons_self ..), ih fun y hy => h y (List.mem_cons_of_mem _ hy)]
      rfl

/-- Where no key is too old none is given up. -/
theorem dropStaleKeys_fresh {s : Lexer} (h : s.Fresh) : s.dropStaleKeys = .ok s := by
  unfold dropStaleKeys
  rw [mapM_self]
  · show Except.ok { s with keys := s.keys.reverse.reverse } = _
    rw [List.reverse_reverse]
  · intro key hkey
    rw [List.mem_reverse] at hkey
    cases key with
    | none => rfl
    | some k =>
        show (if KeyPlace.isStale k s.mark then _ else _ : Except Fault (Option KeyPlace)) = _
        rw [h k hkey]
        rfl

/-- A token is read where none waits, or where one waits for its colon. -/
theorem emits_fetch {s s' : Lexer} (hwaits : s.queue = [] ∨ s.Fresh ∧ s.headMayBeKey = true)
    (h : s.fetch = .ok s') (hbound : 1 + s'.potential ≤ s.potential) : Emits s [] s' := by
  refine ⟨[], 1, rfl, hbound, fun n => ?_⟩
  show run (n + 1) s = _
  conv => lhs; unfold run
  cases hqueue : s.queue with
  | nil =>
      simp only [h]
      rfl
  | cons t q =>
      rcases hwaits with hnil | ⟨hfresh, hhead⟩
      · rw [hqueue] at hnil
        cases hnil
      · simp only [dropStaleKeys_fresh hfresh, hhead, if_true, h]
        rfl

/-- Tokens that begin no key are delivered. -/
theorem emits_deliver {s : Lexer} {ts q : List (Located Token)} (hqueue : s.queue = ts ++ q)
    (hfresh : s.Fresh) (hkeys : ∀ k, some k ∈ s.keys → s.delivered + ts.length ≤ k.tokenNumber)
    (hend : ∀ t ∈ ts, t.value ≠ .streamEnd) :
    Emits s (ts.map Located.value)
      { s with queue := q, delivered := s.delivered + ts.length } := by
  -- On the tokens to be delivered: the first one goes out, for no key that waits may
  -- begin there.
  induction ts generalizing s with
  | nil =>
      have hself : s =
          { s with queue := q, delivered := s.delivered + ([] : List (Located Token)).length } := by
        rw [← List.nil_append q, ← hqueue]
        rfl
      rw [← hself]
      exact emits_refl s
  | cons t ts ih =>
      have hhead : s.headMayBeKey = false := by
        unfold headMayBeKey
        rw [List.any_eq_false]
        intro key hkey
        cases key with
        | none => exact Bool.false_ne_true
        | some k =>
            have hnumber := hkeys k hkey
            rw [List.length_cons] at hnumber
            rw [Option.any_some, beq_iff_eq]
            omega
      have hone : Emits s [t.value] { s with queue := ts ++ q, delivered := s.delivered + 1 } := by
        refine ⟨[t], 1, rfl, ?_, fun n => ?_⟩
        · unfold potential
          rw [hqueue]
          simp only [List.length_append, List.length_cons]
          omega
        · show run (n + 1) s = _
          conv => lhs; unfold run
          rw [hqueue]
          simp only [List.cons_append, dropStaleKeys_fresh hfresh, hhead, Bool.false_eq_true,
            if_false]
          rw [if_neg (hend t (List.mem_cons_self ..))]
          rfl
      have hrest := ih (s := { s with queue := ts ++ q, delivered := s.delivered + 1 }) rfl hfresh
        (fun k hk => by
          have hnumber := hkeys k hk
          rw [List.length_cons] at hnumber
          show s.delivered + 1 + ts.length ≤ k.tokenNumber
          omega)
        (fun u hu => hend u (List.mem_cons_of_mem _ hu))
      have hsum : s.delivered + (t :: ts).length = s.delivered + 1 + ts.length := by
        rw [List.length_cons]
        omega
      rw [hsum]
      exact hone.trans hrest

/-! ## §3. The first token of a line. -/

/-- The lexer before a token that may begin a key. -/
def prepared (m : Mark) (rest : List Char) (blocks : List Nat) (queue : List (Located Token))
    (delivered : Nat) : Lexer :=
  { cursor := ⟨m, rest⟩, started := true, blocks := blocks, keyAllowed := true, keys := [none],
    queue := queue, delivered := delivered }

/-- The lexer before a token that begins no key. -/
def inside (m : Mark) (rest : List Char) (blocks : List Nat) (delivered : Nat) : Lexer :=
  { cursor := ⟨m, rest⟩, started := true, blocks := blocks, keys := [none],
    delivered := delivered }

/-- The next token stands on a later line, and what waits is at most one
token, which begins no key there. -/
structure Ready (s : Lexer) (m : Mark) (rest : List Char) : Prop where
  started : s.started = true
  reaches : skipToToken false s.keyAllowed false s.mark s.cursor.rest = (true, ⟨m, rest⟩)
  shorter : rest.length ≤ s.cursor.rest.length
  waits : (s.queue = [] ∧ s.keys = [none])
    ∨ ∃ t k, s.queue = [t] ∧ t.value ≠ .streamEnd ∧ s.keys = [some k] ∧ k.required = false
        ∧ k.tokenNumber = s.delivered ∧ k.mark.line < m.line

/-- **A key that is too old is given up** without a fault, unless it is
required. -/
theorem dropStaleKeys_stale {s : Lexer} {k : KeyPlace} (hkeys : s.keys = [some k])
    (hrequired : k.required = false) (hstale : KeyPlace.isStale k s.mark = true) :
    s.dropStaleKeys = .ok { s with keys := [none] } := by
  unfold dropStaleKeys
  simp only [hkeys, List.reverse_singleton, List.mapM_cons, List.mapM_nil, hstale, hrequired,
    if_true, Bool.false_eq_true, if_false]
  rfl

/-- What is left of a run after a token was read. -/
def runFrom (n : Nat) : Except Fault Lexer → List (Located Token) × Option Fault
  | .error e => ([], some e)
  | .ok s => run n s

theorem Ready.fetch {s : Lexer} {m : Mark} {rest : List Char} (h : s.Ready m rest) :
    s.fetch = ((prepared m rest s.blocks s.queue s.delivered).unroll (m.column + 1)).fetchToken := by
  obtain ⟨hstarted, hreaches, -, hwaits⟩ := h
  obtain ⟨c, st, blocks, ka, keys, queue, delivered⟩ := s
  subst hstarted
  have hflow : Lexer.inFlow ⟨c, true, blocks, ka, keys, queue, delivered⟩ = false := by
    rcases hwaits with ⟨-, hkeys⟩ | ⟨t, k, -, -, hkeys, -⟩ <;>
      (subst hkeys; rfl)
  unfold Lexer.fetch
  simp only [Bool.not_true, Bool.false_eq_true, if_false, hflow]
  rw [hreaches]
  have hdrop : Lexer.dropStaleKeys ⟨⟨m, rest⟩, true, blocks, true, keys, queue, delivered⟩
      = .ok (prepared m rest blocks queue delivered) := by
    rcases hwaits with ⟨-, hkeys⟩ | ⟨t, k, -, -, hkeys, hrequired, -, hline⟩
    · subst hkeys
      exact dropStaleKeys_fresh fun k hk => absurd (List.mem_singleton.mp hk) nofun
    · refine dropStaleKeys_stale hkeys hrequired ?_
      unfold KeyPlace.isStale
      rw [show Lexer.mark ⟨⟨m, rest⟩, true, blocks, true, keys, queue, delivered⟩ = m from rfl,
        decide_eq_true hline, Bool.true_or]
  simp only [hdrop]
  rfl

/-- A state without a waiting token reads the next one at once. -/
theorem run_fetch {s : Lexer} (h : s.queue = []) (n : Nat) : run (n + 1) s = runFrom n s.fetch := by
  conv => lhs; unfold run
  rw [h]
  cases s.fetch <;> rfl

section Waiting

variable {s : Lexer} {t : Located Token} {k : KeyPlace} (hqueue : s.queue = [t])
  (hkeys : s.keys = [some k])
include hkeys

theorem fresh_single (hstale : ¬ KeyPlace.isStale k s.mark = true) : s.Fresh := by
  intro k' hk'
  rw [hkeys, List.mem_singleton, Option.some.injEq] at hk'
  rw [hk']
  exact Bool.eq_false_iff.mpr hstale

include hqueue

/-- A waiting token that is too far back for a key is delivered. -/
theorem run_stale (hvalue : t.value ≠ .streamEnd) (hrequired : k.required = false)
    (hstale : KeyPlace.isStale k s.mark = true) (n : Nat) :
    run (n + 1) s
      = (t :: (run n { s with keys := [none], queue := [], delivered := s.delivered + 1 }).1,
        (run n { s with keys := [none], queue := [], delivered := s.delivered + 1 }).2) := by
  conv => lhs; unfold run
  rw [hqueue]
  simp only [dropStaleKeys_stale hkeys hrequired hstale]
  rw [if_neg hvalue]
  rfl

/-- A waiting token that may be a key waits until the next one is read. -/
theorem run_waiting (hnumber : k.tokenNumber = s.delivered) (hfresh : s.Fresh) (n : Nat) :
    run (n + 1) s = runFrom n s.fetch := by
  have hhead : s.headMayBeKey = true := by
    unfold headMayBeKey
    rw [hkeys, List.any_cons, Option.any_some, hnumber, beq_self_eq_true, Bool.true_or]
  conv => lhs; unfold run
  rw [hqueue]
  simp only [dropStaleKeys_fresh hfresh, hhead, if_true]
  cases s.fetch <;> rfl

end Waiting

/-- **The first token of a line is read** after what still waits. -/
theorem Ready.first {s : Lexer} {m : Mark} {rest : List Char} (h : s.Ready m rest) :
    ∃ V s₁, Emits s V s₁ ∧ V ++ s₁.queue.map Located.value = s.queue.map Located.value
      ∧ s₁.delivered + s₁.queue.length = s.delivered + s.queue.length
      ∧ (∀ t ∈ s₁.queue, t.value ≠ .streamEnd)
      ∧ 8 * rest.length + s.blocks.length + s₁.queue.length ≤ s₁.potential
      ∧ ∀ n, run (n + 1) s₁ = runFrom n
          ((prepared m rest s.blocks s₁.queue s₁.delivered).unroll (m.column + 1)).fetchToken := by
  have hfetch := h.fetch
  obtain ⟨hstarted, hreaches, hshorter, hwaits⟩ := h
  have hbound : 8 * rest.length + s.blocks.length + s.queue.length ≤ s.potential := by
    unfold potential
    omega
  rcases hwaits with ⟨hqueue, hkeys⟩ | ⟨t, k, hqueue, hvalue, hkeys, hrequired, hnumber, hline⟩
  · exact ⟨[], s, emits_refl s, rfl, rfl, by rw [hqueue]; nofun, hbound,
      fun n => hfetch ▸ run_fetch hqueue n⟩
  · by_cases hstale : KeyPlace.isStale k s.mark = true
    · -- The waiting token is too long for a key: it is delivered first.
      refine ⟨[t.value], { s with keys := [none], queue := [], delivered := s.delivered + 1 },
        ⟨[t], 1, rfl, ?_, fun n => ?_⟩, ?_, ?_, nofun, ?_, ?_⟩
      · unfold potential
        rw [hqueue, List.length_singleton]
        show 1 + (8 * s.cursor.rest.length + s.blocks.length + 0) ≤ _
        omega
      · exact run_stale hqueue hkeys hvalue hrequired hstale n
      · rw [hqueue]
        rfl
      · rw [hqueue]
        rfl
      · show 8 * rest.length + s.blocks.length + 0 ≤ 8 * s.cursor.rest.length + s.blocks.length + 0
        omega
      · intro n
        let u : Lexer := { s with keys := [none], queue := [], delivered := s.delivered + 1 }
        have hready : u.Ready m rest := ⟨hstarted, hreaches, hshorter, .inl ⟨rfl, rfl⟩⟩
        exact (run_fetch rfl n).trans (congrArg (runFrom n) hready.fetch)
    · -- It waits until its line is left.
      refine ⟨[], s, emits_refl s, rfl, rfl, ?_, hbound, fun n => ?_⟩
      · intro u hu
        rw [hqueue, List.mem_singleton] at hu
        rw [hu]
        exact hvalue
      · rw [run_waiting hqueue hkeys hnumber (fresh_single hkeys hstale), hfetch]

/-- The token may be one of several. -/
theorem Ready.emits_first {s s' : Lexer} {m : Mark} {rest : List Char} (h : s.Ready m rest)
    (hfetch : ∀ q d, d + q.length = s.delivered + s.queue.length →
      ((prepared m rest s.blocks q d).unroll (m.column + 1)).fetchToken
        = .ok { s' with queue := q ++ s'.queue, delivered := d })
    (hdelivered : s'.delivered = s.delivered + s.queue.length) (hfresh : s'.Fresh)
    (hkeys : ∀ k, some k ∈ s'.keys → s'.delivered ≤ k.tokenNumber)
    (hbound : 1 + s'.potential ≤ 8 * rest.length + s.blocks.length) :
    Emits s (s.queue.map Located.value) s' := by
  obtain ⟨V, s₁, hemits, hvalues, hnumber, hends, hpotential, hrun⟩ := h.first
  have hone : Emits s₁ [] { s' with queue := s₁.queue ++ s'.queue, delivered := s₁.delivered } := by
    refine ⟨[], 1, rfl, ?_, fun n => ?_⟩
    · unfold potential at hbound ⊢
      rw [List.length_append]
      show 1 + (8 * s'.cursor.rest.length + s'.blocks.length
        + (s₁.queue.length + s'.queue.length)) ≤ _
      unfold potential at hpotential
      omega
    · rw [hrun, hfetch _ _ hnumber]
      rfl
  have hdeliver : Emits { s' with queue := s₁.queue ++ s'.queue, delivered := s₁.delivered }
      (s₁.queue.map Located.value)
      { s' with queue := s'.queue, delivered := s₁.delivered + s₁.queue.length } := by
    refine emits_deliver rfl hfresh (fun k hk => ?_) hends
    have hk' := hkeys k hk
    show s₁.delivered + s₁.queue.length ≤ k.tokenNumber
    omega
  have hresult : (⟨s'.cursor, s'.started, s'.blocks, s'.keyAllowed, s'.keys, s'.queue,
      s₁.delivered + s₁.queue.length⟩ : Lexer) = s' := by
    rw [hnumber, ← hdelivered]
  rw [← hvalues]
  refine hemits.trans ?_
  rw [← List.nil_append (s₁.queue.map _)]
  refine hone.trans ?_
  rw [← hresult]
  exact hdeliver

end Lexer

end Provision.Yaml
