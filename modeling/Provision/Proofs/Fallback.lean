/-
  Provision.Proofs.Fallback
  ─────────────────────────
  **FALLING BACK ON THE ENVIRONMENT.**

  A parameter that was not given falls back on its variable, one after the
  other.  This touches nothing but the arguments, so that the order of the
  parameters shows only in which refusal comes first.

  Main results:

    `foldlM_fallBack`           falling back touches the arguments only
    `foldlM_fallenBack_unset`   without variables nothing falls back
    `foldlM_fallenBack_given`   a variable stands for its option
-/
import Provision.Proofs.ArgumentFields

namespace Provision.CommandLine

/-! ## §1. One parameter. -/

/-- The parameters that fall back are all in the list of them. -/
theorem isSome_fallback {p : Parameter} {v : String} (h : p.fallback? = some v) :
    p ∈ Parameter.withVariable := by
  cases p <;> first | decide | cases h

/-- No two parameters fall back on the same variable. -/
theorem fallback_injective {p q : Parameter} {v : String} (hp : p.fallback? = some v)
    (hq : q.fallback? = some v) : p = q := by
  have hsame : p.fallback? = q.fallback? := hp.trans hq.symm
  cases p <;> cases q <;> first | rfl | exact absurd hsame (by decide) | cases hp

/-- The variables of all parameters that were not given are unset. -/
def Unset (valueOf : String → Option String) (G : List Opt) : Prop :=
  ∀ p v, .parameter p ∉ G → p.fallback? = some v → valueOf v = none

/-- The arguments after a parameter has fallen back on its variable, where
these options were given. -/
def fallenBack (valueOf : String → Option String) (G : List Opt) (a : Arguments) (p : Parameter) :
    Except Refusal Arguments :=
  if G.contains (.parameter p) then .ok a
  else match p.fallback?.bind valueOf with
    | none => .ok a
    | some text =>
        match a.withValue? text p with
        | some b => .ok b
        | none => Reading.refuse (if text == "" then .valueRequired p else .invalidValue p text)

section FallBack

variable {valueOf valueOf' : String → Option String} {G G' : List Opt} {a b : Arguments}
  {p : Parameter} {text : String} {ps : List Parameter}

/-- What was given does not fall back. -/
theorem fallenBack_given (h : .parameter p ∈ G) : fallenBack valueOf G a p = .ok a := by
  unfold fallenBack
  rw [if_pos (List.contains_iff_mem.mpr h)]

/-- Without its variable a parameter keeps what it has. -/
theorem fallenBack_unset (h : p.fallback?.bind valueOf = none) :
    fallenBack valueOf G a p = .ok a := by
  unfold fallenBack
  rw [h, ite_self]

/-- With a variable whose text is accepted it takes that text. -/
theorem fallenBack_set (hG : .parameter p ∉ G) (h : p.fallback?.bind valueOf = some text)
    (hvalue : a.withValue? text p = some b) : fallenBack valueOf G a p = .ok b := by
  unfold fallenBack
  rw [if_neg (mt List.contains_iff_mem.mp hG), h]
  simp only [hvalue]

/-- A variable that is not accepted is refused as the option would be. -/
theorem fallenBack_refused (hG : .parameter p ∉ G) (h : p.fallback?.bind valueOf = some text)
    (hvalue : a.withValue? text p = none) :
    fallenBack valueOf G a p
      = Reading.refuse (if text == "" then .valueRequired p else .invalidValue p text) := by
  unfold fallenBack
  rw [if_neg (mt List.contains_iff_mem.mp hG), h]
  simp only [hvalue]

/-! ## §2. One after the other. -/

/-- Falling back touches the arguments only. -/
theorem foldlM_fallBack (valueOf : String → Option String) (ps : List Parameter) (a : Arguments)
    (G : List Opt) :
    ps.foldlM (Reading.fallBack valueOf) ⟨a, G, none⟩
      = (ps.foldlM (fallenBack valueOf G) a).map fun b => ⟨b, G, none⟩ := by
  induction ps generalizing a with
  | nil => rfl
  | cons p ps ih =>
      have hone : Reading.fallBack valueOf ⟨a, G, none⟩ p
          = (fallenBack valueOf G a p).map fun b => ⟨b, G, none⟩ := by
        unfold Reading.fallBack fallenBack
        split
        · rfl
        · cases p.fallback?.bind valueOf with
          | none => rfl
          | some text =>
              show Reading.accept _ p text = _
              unfold Reading.accept
              cases h : a.withValue? text p with
              | none => simp only [h]; rfl
              | some b => simp only [h]; rfl
      rw [List.foldlM_cons, List.foldlM_cons, hone]
      cases fallenBack valueOf G a p with
      | error e => rfl
      | ok b => exact ih b

/-- Without variables nothing falls back. -/
theorem foldlM_fallenBack_unset (h : Unset valueOf G) :
    ps.foldlM (fallenBack valueOf G) a = .ok a := by
  induction ps with
  | nil => rfl
  | cons p ps ih =>
      have hone : fallenBack valueOf G a p = .ok a := by
        by_cases hG : .parameter p ∈ G
        · exact fallenBack_given hG
        · refine fallenBack_unset ?_
          cases hv : p.fallback? with
          | none => rfl
          | some v => exact h p v hG hv
      rw [List.foldlM_cons, hone]
      exact ih

/-- Only the parameters that fall back, and their variables, matter. -/
theorem foldlM_fallenBack_congr (hG : ∀ p ∈ ps, .parameter p ∈ G ↔ .parameter p ∈ G')
    (henv : ∀ p ∈ ps, p.fallback?.bind valueOf = p.fallback?.bind valueOf') (a : Arguments) :
    ps.foldlM (fallenBack valueOf G) a = ps.foldlM (fallenBack valueOf' G') a := by
  induction ps generalizing a with
  | nil => rfl
  | cons p ps ih =>
      have hone : fallenBack valueOf G a p = fallenBack valueOf' G' a p := by
        have hcontains : G.contains (.parameter p) = G'.contains (.parameter p) := by
          rw [Bool.eq_iff_iff, List.contains_iff_mem, List.contains_iff_mem]
          exact hG p (List.mem_cons_self ..)
        unfold fallenBack
        rw [hcontains, henv p (List.mem_cons_self ..)]
      rw [List.foldlM_cons, List.foldlM_cons, hone]
      cases fallenBack valueOf' G' a p with
      | error e => rfl
      | ok b =>
          exact ih (fun q hq => hG q (List.mem_cons_of_mem _ hq))
            (fun q hq => henv q (List.mem_cons_of_mem _ hq)) b

/-- **A variable stands for the option**: falling back on it, in its turn, is
as good as having been given its value before. -/
theorem foldlM_fallenBack_given (hnew : .parameter p ∉ G) (hgiven : .parameter p ∈ G')
    (hG : ∀ q, q ≠ p → (.parameter q ∈ G ↔ .parameter q ∈ G'))
    (henv : ∀ q, q ≠ p → q.fallback?.bind valueOf = q.fallback?.bind valueOf')
    (hset : p.fallback?.bind valueOf = some text) (hps : ps.Nodup) (hp : p ∈ ps)
    (hvalue : a.withValue? text p = some b) :
    ps.foldlM (fallenBack valueOf G) a = ps.foldlM (fallenBack valueOf' G') b := by
  -- On the parameters in their turn: before that of `p` both sides do the same to
  -- arguments that differ in `p`, and values for different parameters may change
  -- places.
  induction ps generalizing a b with
  | nil => cases hp
  | cons q ps ih =>
      rw [List.foldlM_cons, List.foldlM_cons]
      obtain ⟨hq, hrest⟩ := List.nodup_cons.mp hps
      by_cases hself : q = p
      · -- Its turn: from here on the arguments are the same.
        subst hself
        rw [fallenBack_set hnew hset hvalue, fallenBack_given hgiven]
        have hother : ∀ q' ∈ ps, q' ≠ q := fun q' hq' heq => hq (heq ▸ hq')
        exact foldlM_fallenBack_congr (fun q' hq' => hG q' (hother q' hq'))
          (fun q' hq' => henv q' (hother q' hq')) b
      · have hlater : p ∈ ps := by
          rcases List.mem_cons.mp hp with heq | hp
          · exact absurd heq.symm hself
          · exact hp
        by_cases hmem : .parameter q ∈ G
        · rw [fallenBack_given hmem, fallenBack_given ((hG q hself).mp hmem)]
          exact ih hrest hlater hvalue
        · have hmem' := mt (hG q hself).mpr hmem
          cases htext : q.fallback?.bind valueOf with
          | none =>
              rw [fallenBack_unset htext, fallenBack_unset ((henv q hself).symm.trans htext)]
              exact ih hrest hlater hvalue
          | some t =>
              have htext' := (henv q hself).symm.trans htext
              cases hq' : a.withValue? t q with
              | none =>
                  rw [fallenBack_refused hmem htext hq', fallenBack_refused hmem' htext'
                    (Arguments.withValue?_eq_none hq' b)]
                  rfl
              | some c =>
                  obtain ⟨d, hd, hcd⟩ := Arguments.withValue?_comm hvalue hq' (Ne.symm hself)
                  rw [fallenBack_set hmem htext hq', fallenBack_set hmem' htext' hd]
                  exact ih hrest hlater hcd

end FallBack

end Provision.CommandLine
