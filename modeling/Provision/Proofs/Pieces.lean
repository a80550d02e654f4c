/-
  Provision.Proofs.Pieces
  ───────────────────────
  **THE PIECES OF A TEXT BETWEEN SEPARATORS.**

  A text is cut at each of its separators.  Whatever is cut off holds no
  separator, and put together again with separators in between the pieces are
  the text.  No other list of texts has these two properties, so that a text is
  as good as its pieces.

  Main results:

    `splitAll_append`    a text is cut at each of its separators
    `cut_iff`            the pieces of a text are the only ones
    `pieces_append`      two texts with a separator in between keep their pieces
-/
import Provision.Text.Search

namespace Provision.Text

/-! ## §1. Cutting lists of characters. -/

/-- A text is cut at each of its separators, and so at this one. -/
theorem splitAll_append (sep : Char) (front back : List Char) :
    splitAll sep (front ++ sep :: back) = splitAll sep front ++ splitAll sep back := by
  induction front with
  | nil =>
      show splitAll sep (sep :: back) = [[]] ++ splitAll sep back
      rw [splitAll, if_pos rfl]
      rfl
  | cons c front ih =>
      rw [List.cons_append, splitAll, splitAll]
      by_cases hc : c = sep
      · rw [if_pos hc, if_pos hc, ih]
        rfl
      · rw [if_neg hc, if_neg hc, ih]
        obtain ⟨piece, pieces, hpieces⟩ := List.exists_cons_of_ne_nil (splitAll_ne_nil sep front)
        rw [hpieces]
        rfl

theorem splitAll_of_notMem {sep : Char} {cs : List Char} (h : sep ∉ cs) :
    splitAll sep cs = [cs] := by
  induction cs with
  | nil => rfl
  | cons c cs ih =>
      rw [List.mem_cons, not_or] at h
      rw [splitAll, if_neg (Ne.symm h.1), ih h.2]

/-- A text without a separator goes to the end of the last piece. -/
theorem splitAll_append_last {sep : Char} {ending : List Char} (h : sep ∉ ending)
    (cs : List Char) :
    ∃ front last, splitAll sep cs = front ++ [last]
      ∧ splitAll sep (cs ++ ending) = front ++ [last ++ ending] := by
  induction cs with
  | nil => exact ⟨[], [], rfl, splitAll_of_notMem h⟩
  | cons c cs ih =>
      obtain ⟨front, last, hcs, hending⟩ := ih
      rw [List.cons_append, splitAll, splitAll, hcs, hending]
      by_cases hc : c = sep
      · rw [if_pos hc, if_pos hc]
        exact ⟨[] :: front, last, rfl, rfl⟩
      · rw [if_neg hc, if_neg hc]
        cases front with
        | nil => exact ⟨[], c :: last, rfl, rfl⟩
        | cons first front => exact ⟨(c :: first) :: front, last, rfl, rfl⟩

/-- What is cut off holds no separator. -/
theorem notMem_of_mem_splitAll {sep : Char} {cs piece : List Char}
    (h : piece ∈ splitAll sep cs) : sep ∉ piece := by
  induction cs generalizing piece with
  | nil =>
      rw [List.mem_singleton.mp h]
      exact List.not_mem_nil
  | cons c cs ih =>
      rw [splitAll] at h
      by_cases hc : c = sep
      · rw [if_pos hc] at h
        rcases List.mem_cons.mp h with rfl | h
        · exact List.not_mem_nil
        · exact ih h
      · -- The character goes in front of the first piece of the rest.
        rw [if_neg hc] at h
        obtain ⟨first, more, hrest⟩ := List.exists_cons_of_ne_nil (splitAll_ne_nil sep cs)
        rw [hrest] at h ih
        rcases List.mem_cons.mp h with rfl | h
        · have hfirst := ih (List.mem_cons_self ..)
          rw [List.mem_cons, not_or]
          exact ⟨Ne.symm hc, hfirst⟩
        · exact ih (List.mem_cons_of_mem _ h)

/-- What is put together from pieces is cut into them again. -/
theorem splitAll_intercalate {sep : Char} {pieces : List (List Char)} (hne : pieces ≠ [])
    (h : ∀ piece ∈ pieces, sep ∉ piece) : splitAll sep ([sep].intercalate pieces) = pieces := by
  induction pieces with
  | nil => exact absurd rfl hne
  | cons first more ih =>
      have hfirst : sep ∉ first := h first (List.mem_cons_self ..)
      cases more with
      | nil => rw [List.intercalate_singleton, splitAll_of_notMem hfirst]
      | cons second more =>
          have hmore := ih (List.cons_ne_nil second more) fun piece hpiece =>
            h piece (List.mem_cons_of_mem _ hpiece)
          rw [List.intercalate_cons_cons, List.append_assoc]
          show splitAll sep (first ++ sep :: [sep].intercalate (second :: more)) = _
          rw [splitAll_append, splitAll_of_notMem hfirst, hmore]
          rfl

/-! ## §2. Cutting texts. -/

/-- The text is put together from these pieces, with separators in between. -/
structure Cut (sep : Char) (text : String) (pieces : List String) : Prop where
  /-- There is a piece, and be it the empty one. -/
  ne_nil : pieces ≠ []
  plain : ∀ piece ∈ pieces, sep ∉ piece.toList
  joined : (String.singleton sep).intercalate pieces = text

/-- A text is cut into its pieces. -/
theorem cut_pieces (sep : Char) (text : String) : Cut sep text (pieces sep text) where
  ne_nil hnil := splitAll_ne_nil sep text.toList (List.map_eq_nil_iff.mp hnil)
  plain piece hpiece := by
    obtain ⟨cs, hcs, rfl⟩ := List.mem_map.mp hpiece
    rw [String.toList_ofList]
    exact notMem_of_mem_splitAll hcs
  joined := by
    rw [← String.toList_inj, String.toList_intercalate, pieces, List.map_map]
    have hself : String.toList ∘ String.ofList = id := funext fun _ => String.toList_ofList
    rw [hself, List.map_id, String.toList_singleton]
    exact intercalate_splitAll sep text.toList

/-- **The pieces of a text are the only ones** that it is put together from. -/
theorem cut_iff {sep : Char} {text : String} {ds : List String} :
    Cut sep text ds ↔ pieces sep text = ds := by
  constructor
  · rintro ⟨hne, hplain, rfl⟩
    have hchars : ∀ cs ∈ ds.map String.toList, sep ∉ cs := by
      intro cs hcs
      obtain ⟨d, hd, rfl⟩ := List.mem_map.mp hcs
      exact hplain d hd
    have hcut : splitAll sep ((String.singleton sep).intercalate ds).toList
        = ds.map String.toList := by
      rw [String.toList_intercalate, String.toList_singleton]
      exact splitAll_intercalate (fun hnil => hne (List.map_eq_nil_iff.mp hnil)) hchars
    have hself : String.ofList ∘ String.toList = id := funext fun _ => String.ofList_toList
    rw [pieces, hcut, List.map_map, hself, List.map_id]
  · rintro rfl
    exact cut_pieces sep text

theorem pieces_of_notMem {sep : Char} {text : String} (h : sep ∉ text.toList) :
    pieces sep text = [text] := by
  rw [pieces, splitAll_of_notMem h]
  exact congrArg (fun t => [t]) String.ofList_toList

/-- **Two texts with a separator in between keep their pieces.** -/
theorem pieces_append (sep : Char) (s t : String) :
    pieces sep (s ++ String.singleton sep ++ t) = pieces sep s ++ pieces sep t := by
  have htext : (s ++ String.singleton sep ++ t).toList = s.toList ++ sep :: t.toList := by
    rw [String.toList_append, String.toList_append, String.toList_singleton, List.append_assoc]
    rfl
  rw [pieces, htext, splitAll_append, List.map_append]
  rfl

end Provision.Text
