/-
  Provision.Proofs.NormalPaths
  ────────────────────────────
  **PATHS IN NORMAL FORM.**

  A path is normal if it begins at the root, has no dot for a name and repeats
  no slash, save that it may begin with exactly two.  Steps upwards and a slash
  at the end are part of the form.  What is resolved against a normal working
  directory is normal, and what is normal is resolved to itself, wherever that
  is done.

  A relative path that is joined to a normal one lies in it: the joined path
  begins with the text and with the parts of the first one.

  Main results:

    `Normal.join`           a name below a normal path gives a normal path
    `normal_absolute?`      what is resolved is normal
    `absolute?_of_normal`   what is normal is resolved to itself
    `liesIn_join`           a relative path below another one lies in it
    `parts_absolute?`       the parts of what is resolved are those of the path
-/
import Mathlib.Data.List.Chain
import Provision.Proofs.Confinement

namespace Provision

open Text

namespace Path

/-! ## §1. Normal paths. -/

/-- Not both of the two characters are slashes. -/
def Single (a b : Char) : Prop := a = '/' → b ≠ '/'

instance : DecidableRel Single := fun _ _ => inferInstanceAs (Decidable (_ → _))

/-- A path from the root without a dot for a name and without repeated slashes:
behind the first character no slash follows another one, so that only two of
them at the very beginning, and no third one, may stand together. -/
structure Normal (p : Path) : Prop where
  absolute : p.isAbsolute = true
  no_dot : "." ∉ pieces '/' p.text
  single : p.text.toList.tail.IsChain Single

/-- The plain root and the root of two slashes. -/
theorem normal_root : Normal ⟨"/"⟩ := ⟨by decide, by decide, by decide⟩

theorem normal_doubleRoot : Normal ⟨"//"⟩ := ⟨by decide, by decide, by decide⟩

theorem exists_toList_of_absolute {p : Path} (h : p.isAbsolute = true) :
    ∃ cs, p.text.toList = '/' :: cs := by
  unfold isAbsolute at h
  rw [beq_iff_eq] at h
  exact ⟨p.text.toList.tail, (List.cons_head?_tail h).symm⟩

theorem isEmpty_toList {text : String} (h : text ≠ "") : text.toList.isEmpty = false := by
  rw [List.isEmpty_eq_false_iff]
  exact fun hnil => h (String.toList_eq_nil_iff.mp hnil)

theorem text_ne_empty {p : Path} (h : p.isAbsolute = true) : p.text ≠ "" := by
  intro hempty
  obtain ⟨cs, hcs⟩ := exists_toList_of_absolute h
  rw [hempty] at hcs
  cases hcs

/-- A text without a slash names no place from the root. -/
theorem isAbsolute_of_notMem {name : String} (h : '/' ∉ name.toList) :
    (⟨name⟩ : Path).isAbsolute = false := by
  unfold isAbsolute
  rw [beq_eq_false_iff_ne]
  exact fun hhead => h (List.mem_of_head? hhead)

/-- A text begins as what it begins with, if that is something. -/
theorem isAbsolute_append {s : String} (h : s ≠ "") (t : String) :
    (⟨s ++ t⟩ : Path).isAbsolute = (⟨s⟩ : Path).isAbsolute := by
  unfold isAbsolute
  rw [String.toList_append, List.head?_append_of_ne_nil]
  exact fun hnil => h (String.toList_eq_nil_iff.mp hnil)

/-- A text without a slash repeats none. -/
theorem isChain_of_notMem {cs : List Char} (h : '/' ∉ cs) : cs.IsChain Single := by
  apply List.Pairwise.isChain
  apply List.pairwise_of_forall_mem_list
  intro a ha b _ heq
  exact absurd (heq ▸ ha) h

/-! ## §2. One path below another. -/

/-- What stands between two paths that are joined: nothing, if the first one
brings its own slash. -/
def seam (p : Path) : String := if p.endsInSlash then "" else "/"

/-- The text of a joined path. -/
theorem text_join {p child : Path} (hp : p.text ≠ "") (hchild : child.isAbsolute = false) :
    (p.join child).text = p.text ++ p.seam ++ child.text := by
  unfold join seam
  rw [hchild, isEmpty_toList hp, Bool.false_or, if_neg Bool.false_ne_true]
  split
  · rw [String.append_empty]
  · rfl

/-- A path that ends in a name does not end in a slash. -/
theorem endsInSlash_join {p : Path} {name : String} (hp : p.text ≠ "") (hname : name ≠ "")
    (hslash : '/' ∉ name.toList) : (p.join ⟨name⟩).endsInSlash = false := by
  have hne : name.toList ≠ [] := fun hnil => hname (String.toList_eq_nil_iff.mp hnil)
  unfold endsInSlash
  rw [text_join hp (isAbsolute_of_notMem hslash), String.toList_append,
    List.getLast?_append_of_ne_nil _ hne, beq_eq_false_iff_ne]
  exact fun hlast => hslash (List.mem_of_getLast? hlast)

/-- **A name below a normal path gives a normal path**; the name may be empty,
which puts a slash at the end. -/
theorem Normal.join {p : Path} (hp : p.Normal) {name : String} (hslash : '/' ∉ name.toList)
    (hdot : name ≠ ".") : (p.join ⟨name⟩).Normal := by
  have hrelative := isAbsolute_of_notMem hslash
  have hne := text_ne_empty hp.absolute
  obtain ⟨habsolute, front, hpieces, hfront⟩ := pieces_join hrelative hne
  refine ⟨habsolute.trans hp.absolute, ?no_dot, ?single⟩
  case no_dot =>
    -- The pieces are those of the path, and the name.
    rw [hpieces, pieces_of_notMem hslash, List.mem_append, List.mem_singleton, not_or]
    refine ⟨fun hmem => hp.no_dot ?_, Ne.symm hdot⟩
    rcases hfront with hfront | hfront
    · rw [hfront]
      exact hmem
    · rw [hfront]
      exact List.mem_append_left _ hmem
  case single =>
    obtain ⟨cs, hcs⟩ := exists_toList_of_absolute hp.absolute
    have hsingle := hp.single
    rw [text_join hne hrelative, String.toList_append, String.toList_append]
    rw [hcs] at hsingle ⊢
    show (cs ++ p.seam.toList ++ name.toList).IsChain Single
    have hname := isChain_of_notMem hslash
    unfold seam
    split
    · -- A slash at the end is followed by the name, which does not begin with one.
      show (cs ++ [] ++ name.toList).IsChain Single
      rw [List.append_nil, List.isChain_append]
      refine ⟨hsingle, hname, fun a _ b hb _ heq => ?_⟩
      subst heq
      exact hslash (List.mem_of_head? hb)
    · -- A slash in between follows a character that is none.
      rename_i hends
      show (cs ++ ['/'] ++ name.toList).IsChain Single
      rw [List.append_assoc, List.isChain_append]
      refine ⟨hsingle, ?_, fun a ha b _ heq => ?_⟩
      · refine List.IsChain.cons hname fun b hb _ heq => ?_
        subst heq
        exact hslash (List.mem_of_head? hb)
      · subst heq
        refine absurd ?_ hends
        unfold endsInSlash
        rw [hcs, beq_iff_eq, List.getLast?_cons, Option.mem_def.mp ha]
        rfl

/-! ## §3. Resolving paths. -/

/-- The names of a path are no dots, and there is something and no slash in
each of them. -/
theorem of_mem_parts {p : Path} {name : String} (h : name ∈ p.parts) :
    name ≠ "" ∧ name ≠ "." ∧ '/' ∉ name.toList := by
  obtain ⟨hmem, hproper⟩ := List.mem_filter.mp h
  simp only [Bool.and_eq_true, bne_iff_ne] at hproper
  exact ⟨hproper.1, hproper.2, (cut_pieces '/' p.text).plain name hmem⟩

theorem normal_foldl {names : List String} (hnames : ∀ name ∈ names, '/' ∉ name.toList ∧ name ≠ ".")
    {p : Path} (hp : p.Normal) : (names.foldl (fun q s => q.join ⟨s⟩) p).Normal := by
  induction names generalizing p with
  | nil => exact hp
  | cons name names ih =>
      obtain ⟨hslash, hdot⟩ := hnames name (List.mem_cons_self ..)
      exact ih (fun s hs => hnames s (List.mem_cons_of_mem _ hs)) (hp.join hslash hdot)

theorem normal_base {p cwd : Path} (hcwd : cwd.Normal) : (p.base cwd).Normal := by
  unfold base
  split
  · exact normal_root
  · exact normal_doubleRoot
  · exact normal_root
  · exact hcwd

/-- **What is resolved against a normal working directory is normal.** -/
theorem normal_absolute? {cwd p : Path} (hcwd : cwd.Normal) (hp : p.text ≠ "") :
    ∃ q, absolute? cwd p = some q ∧ q.Normal := by
  have hnames : ∀ name ∈ p.parts, '/' ∉ name.toList ∧ name ≠ "." := fun name h =>
    ⟨(of_mem_parts h).2.2, (of_mem_parts h).2.1⟩
  have hbody := normal_foldl hnames (normal_base (p := p) hcwd)
  unfold absolute?
  rw [isEmpty_toList hp, if_neg Bool.false_ne_true]
  refine ⟨_, rfl, ?_⟩
  split
  · exact hbody.join (by decide) (by decide)
  · exact hbody

/-! ## §4. Resolving normal paths. -/

/-- The names in a text. -/
def names (text : String) : List String :=
  (pieces '/' text).filter fun s => s != "" && s != "."

theorem names_append (s t : String) : names (s ++ "/" ++ t) = names s ++ names t := by
  unfold names
  rw [show s ++ "/" ++ t = s ++ String.singleton '/' ++ t from rfl, pieces_append,
    List.filter_append]

theorem names_of_notMem {name : String} (hslash : '/' ∉ name.toList) (hne : name ≠ "")
    (hdot : name ≠ ".") : names name = [name] := by
  unfold names
  rw [pieces_of_notMem hslash, List.filter_cons_of_pos]
  · rfl
  · rw [bne_iff_ne.mpr hne, bne_iff_ne.mpr hdot]
    rfl

/-- The names in a text, one below the other, and a slash at the end if the text
has one. -/
def below (q : Path) (text : String) : Path :=
  let body := (names text).foldl (fun q s => q.join ⟨s⟩) q
  if (⟨text⟩ : Path).endsInSlash then body.join ⟨""⟩ else body

/-- A text ends as what it ends with, if that is something. -/
theorem endsInSlash_append {s t : String} (h : t ≠ "") :
    (⟨s ++ t⟩ : Path).endsInSlash = (⟨t⟩ : Path).endsInSlash := by
  unfold endsInSlash
  rw [String.toList_append, List.getLast?_append_of_ne_nil]
  exact fun hnil => h (String.toList_eq_nil_iff.mp hnil)

theorem endsInSlash_of_notMem {name : String} (h : '/' ∉ name.toList) :
    (⟨name⟩ : Path).endsInSlash = false := by
  unfold endsInSlash
  rw [beq_eq_false_iff_ne]
  exact fun hlast => h (List.mem_of_getLast? hlast)

/-- The first name of a text goes below the path, what is behind the slash goes
below that. -/
theorem below_append {first : String} (hslash : '/' ∉ first.toList) (hne : first ≠ "")
    (hdot : first ≠ ".") (q : Path) {more : String} (hmore : more ≠ "") :
    q.below (first ++ "/" ++ more) = (q.join ⟨first⟩).below more := by
  unfold below
  rw [names_append, names_of_notMem hslash hne hdot, endsInSlash_append hmore]
  rfl

/-- A name with a slash behind it puts both below the path. -/
theorem below_slash {first : String} (hslash : '/' ∉ first.toList) (hne : first ≠ "")
    (hdot : first ≠ ".") (q : Path) : q.below (first ++ "/") = (q.join ⟨first⟩).join ⟨""⟩ := by
  have hnames : names (first ++ "/") = [first] := by
    have happend := names_append first ""
    rw [String.append_empty, names_of_notMem hslash hne hdot] at happend
    exact happend
  unfold below
  rw [hnames, endsInSlash_append (by decide)]
  rfl

theorem below_of_notMem {name : String} (hslash : '/' ∉ name.toList) (hne : name ≠ "")
    (hdot : name ≠ ".") (q : Path) : q.below name = q.join ⟨name⟩ := by
  unfold below
  rw [names_of_notMem hslash hne hdot, endsInSlash_of_notMem hslash]
  rfl

/-- A text that holds a slash is one up to it and one behind it. -/
theorem exists_of_mem_slash {text : String} (h : '/' ∈ text.toList) :
    ∃ first more, text = first ++ "/" ++ more ∧ '/' ∉ first.toList := by
  obtain ⟨front, back, hsplit, hfront⟩ := List.eq_append_cons_of_mem h
  refine ⟨String.ofList front, String.ofList back, ?_, ?_⟩
  · rw [← String.toList_inj, hsplit, String.toList_append, String.toList_append,
      List.append_assoc]
    simp only [String.toList_ofList]
    rfl
  · rw [String.toList_ofList]
    exact hfront

/-- A text in normal form that does not begin at the root. -/
structure Plain (text : String) : Prop where
  head : text.toList.head? ≠ some '/'
  no_dot : "." ∉ pieces '/' text
  single : text.toList.IsChain Single

/-- What stands before the first slash of such a text is a name, and what stands
behind it is such a text again. -/
theorem Plain.split {first more : String} (h : Plain (first ++ "/" ++ more))
    (hslash : '/' ∉ first.toList) : first ≠ "" ∧ first ≠ "." ∧ Plain more := by
  obtain ⟨hhead, hdot, hsingle⟩ := h
  have hpieces : pieces '/' (first ++ "/" ++ more) = first :: pieces '/' more := by
    rw [show first ++ "/" ++ more = first ++ String.singleton '/' ++ more from rfl,
      pieces_append, pieces_of_notMem hslash]
    rfl
  rw [hpieces, List.mem_cons, not_or] at hdot
  -- Behind the first slash neither the rest nor its first character repeats it.
  have hlist : (first ++ "/" ++ more).toList = first.toList ++ '/' :: more.toList := by
    rw [String.toList_append, String.toList_append, List.append_assoc]
    rfl
  rw [hlist] at hhead hsingle
  have hmore := (List.isChain_append.mp hsingle).2.1
  rw [List.isChain_cons] at hmore
  refine ⟨?_, Ne.symm hdot.1, fun hcons => hmore.1 '/' hcons rfl rfl, hdot.2, hmore.2⟩
  rintro rfl
  exact hhead rfl

/-- **A text in normal form is put together again from its names.** -/
theorem text_below {text : String} (htext : Plain text) (hne : text ≠ "") {q : Path}
    (hq : q.text ≠ "") : (q.below text).text = q.text ++ q.seam ++ text := by
  -- By induction on the length: the first name goes, with the slash behind it.
  induction hlength : text.toList.length using Nat.strong_induction_on generalizing text q with
  | _ n ih =>
    by_cases hslash : '/' ∈ text.toList
    · obtain ⟨first, more, rfl, hfirst⟩ := exists_of_mem_slash hslash
      obtain ⟨hfirstNe, hfirstDot, hmore⟩ := htext.split hfirst
      have hjoin : (q.join ⟨first⟩).text = q.text ++ q.seam ++ first :=
        text_join hq (isAbsolute_of_notMem hfirst)
      have hseam : (q.join ⟨first⟩).seam = "/" := by
        unfold seam
        rw [endsInSlash_join hq hfirstNe hfirst]
        rfl
      have hjoinNe : (q.join ⟨first⟩).text ≠ "" := by
        rw [hjoin]
        exact fun hempty => hfirstNe (String.append_eq_empty_iff.mp hempty).2
      by_cases hend : more = ""
      · subst hend
        rw [String.append_empty, below_slash hfirst hfirstNe hfirstDot,
          text_join hjoinNe (by decide), hjoin, hseam, String.append_empty, String.append_assoc]
      · have hshorter : more.toList.length < n := by
          rw [← hlength, String.toList_append, String.toList_append, List.length_append,
            List.length_append]
          show _ < first.toList.length + 1 + more.toList.length
          omega
        rw [below_append hfirst hfirstNe hfirstDot q hend,
          ih _ hshorter hmore hend hjoinNe rfl, hjoin, hseam]
        simp only [String.append_assoc]
    · -- A single name, which is not the dot.
      have hdot : text ≠ "." := by
        rintro rfl
        exact htext.no_dot (by decide)
      rw [below_of_notMem hslash hne hdot, text_join hq (isAbsolute_of_notMem hslash)]

/-- One slash, with no other one behind it, is the plain root. -/
theorem base_of_slash {rest : String} (h : rest.toList.head? ≠ some '/') (cwd : Path) :
    base ⟨"/" ++ rest⟩ cwd = ⟨"/"⟩ := by
  have hlist : ("/" ++ rest).toList = '/' :: rest.toList := by
    rw [String.toList_append]
    rfl
  unfold base
  rw [hlist]
  -- More slashes at the beginning would make the rest begin with one.
  split
  · rename_i hthree
    exact absurd (congrArg (fun cs => cs.tail.head?) hthree) h
  · rename_i htwo
    exact absurd (congrArg (fun cs => cs.tail.head?) htwo) h
  · rfl
  · rename_i hnone
    exact (hnone _ rfl).elim

/-- Two slashes, with no third one behind them, are a root of their own. -/
theorem base_of_slashes {rest : String} (h : rest.toList.head? ≠ some '/') (cwd : Path) :
    base ⟨"//" ++ rest⟩ cwd = ⟨"//"⟩ := by
  have hlist : ("//" ++ rest).toList = '/' :: '/' :: rest.toList := by
    rw [String.toList_append]
    rfl
  unfold base
  rw [hlist]
  split
  · rename_i hthree
    exact absurd (congrArg (fun cs => cs.tail.tail.head?) hthree) h
  · rfl
  · rename_i htwo hone
    exact (htwo _ (List.cons.inj hone).2.symm).elim
  · rename_i hnone
    exact (hnone _ rfl).elim

theorem plain_ofList {cs : List Char} (hhead : cs.head? ≠ some '/')
    (hdot : "." ∉ (splitAll '/' cs).map String.ofList) (hsingle : cs.IsChain Single) :
    Plain (String.ofList cs) := by
  refine ⟨?_, ?_, ?_⟩
  · rwa [String.toList_ofList]
  · rwa [pieces, String.toList_ofList]
  · rwa [String.toList_ofList]

/-- What a text begins with, and what is behind it. -/
theorem eq_append_ofList {text lead : String} {cs : List Char}
    (h : text.toList = lead.toList ++ cs) : text = lead ++ String.ofList cs := by
  rw [← String.toList_inj, h, String.toList_append, String.toList_ofList]

/-- A normal path is one or two slashes with a text in normal form behind them. -/
theorem Normal.exists_lead {p : Path} (h : p.Normal) :
    ∃ lead rest, (lead = "/" ∨ lead = "//") ∧ p.text = lead ++ rest ∧ Plain rest := by
  obtain ⟨cs, hcs⟩ := exists_toList_of_absolute h.absolute
  have hsingle := h.single
  have hdot := h.no_dot
  rw [hcs] at hsingle
  rw [pieces, hcs] at hdot
  change cs.IsChain Single at hsingle
  by_cases hhead : cs.head? = some '/'
  · -- Two slashes; a third one would repeat the second.
    obtain ⟨ds, rfl⟩ : ∃ ds, cs = '/' :: ds := ⟨cs.tail, (List.cons_head?_tail hhead).symm⟩
    rw [List.isChain_cons] at hsingle
    have hthird : ds.head? ≠ some '/' := fun hthird => hsingle.1 '/' hthird rfl rfl
    have hnames : "." ∉ (splitAll '/' ds).map String.ofList := fun hmem =>
      hdot (List.mem_cons_of_mem _ (List.mem_cons_of_mem _ hmem))
    exact ⟨"//", String.ofList ds, .inr rfl, eq_append_ofList hcs,
      plain_ofList hthird hnames hsingle.2⟩
  · have hnames : "." ∉ (splitAll '/' cs).map String.ofList := fun hmem =>
      hdot (List.mem_cons_of_mem _ hmem)
    exact ⟨"/", String.ofList cs, .inl rfl, eq_append_ofList hcs,
      plain_ofList hhead hnames hsingle⟩

/-- A root is resolved to itself. -/
theorem absolute?_root {lead : String} (hlead : lead = "/" ∨ lead = "//") (cwd : Path) :
    absolute? cwd ⟨lead⟩ = some ⟨lead⟩ := by
  have hempty : (("" : String).toList.head?) ≠ some '/' := by decide
  have hbase : base ⟨lead⟩ cwd = ⟨lead⟩ := by
    rcases hlead with rfl | rfl
    · exact base_of_slash hempty cwd
    · exact base_of_slashes hempty cwd
  unfold absolute?
  rw [hbase]
  rcases hlead with rfl | rfl <;> decide

/-- Resolving a root with a text behind it puts the names of the text below the
root. -/
theorem absolute?_of_lead {lead rest : String} (hlead : lead = "/" ∨ lead = "//")
    (hrest : Plain rest) (hne : rest ≠ "") (cwd : Path) :
    absolute? cwd ⟨lead ++ rest⟩ = some ((⟨lead⟩ : Path).below rest) := by
  have hparts : (⟨lead ++ rest⟩ : Path).parts = names rest := by
    unfold parts names pieces
    rcases hlead with rfl | rfl <;> rw [String.toList_append] <;> rfl
  have hbase : base ⟨lead ++ rest⟩ cwd = ⟨lead⟩ := by
    rcases hlead with rfl | rfl
    · exact base_of_slash hrest.head cwd
    · exact base_of_slashes hrest.head cwd
  have hfull : lead ++ rest ≠ "" := fun hempty => hne (String.append_eq_empty_iff.mp hempty).2
  unfold absolute? below
  rw [isEmpty_toList hfull, hparts, hbase, endsInSlash_append hne]
  rfl

/-- **What is normal is resolved to itself**, whatever the working directory. -/
theorem absolute?_of_normal {p : Path} (h : p.Normal) (cwd : Path) : absolute? cwd p = some p := by
  obtain ⟨lead, rest, hlead, htext, hrest⟩ := h.exists_lead
  obtain rfl : p = ⟨lead ++ rest⟩ := congrArg Path.mk htext
  by_cases hne : rest = ""
  · subst hne
    rw [String.append_empty]
    exact absolute?_root hlead cwd
  · have hleadNe : lead ≠ "" := by
      rcases hlead with rfl | rfl <;> decide
    have hseam : (⟨lead⟩ : Path).seam = "" := by
      rcases hlead with rfl | rfl <;> rfl
    rw [absolute?_of_lead hlead hrest hne, Option.some.injEq]
    refine congrArg Path.mk ((text_below hrest hne hleadNe).trans ?_)
    rw [hseam, String.append_empty]

/-! ## §5. Paths that lie in others. -/

/-- A path lies in another one: it begins at the root, with the text of the
other one and with all of its parts. -/
structure LiesIn (p root : Path) : Prop where
  absolute : p.isAbsolute = true
  parts : root.parts <+: p.parts
  text : ∃ rest, p.text = root.text ++ rest

/-- A path from the root lies in itself. -/
theorem liesIn_self {p : Path} (h : p.isAbsolute = true) : p.LiesIn p :=
  ⟨h, List.prefix_refl _, "", (String.append_empty ..).symm⟩

/-- A joined path has the parts of both. -/
theorem parts_join {p child : Path} (hp : p.text ≠ "") (hchild : child.isAbsolute = false) :
    (p.join child).parts = p.parts ++ child.parts := by
  obtain ⟨-, front, hpieces, hfront⟩ := pieces_join hchild hp
  -- The empty piece behind a slash at the end is no part.
  have hparts : p.parts = front.filter fun s => s != "" && s != "." := by
    unfold parts
    rcases hfront with hfront | hfront
    · rw [hfront]
    · rw [hfront, List.filter_append]
      exact List.append_nil _
  rw [hparts]
  unfold parts
  rw [hpieces, List.filter_append]

/-- **A relative path below another one lies in it.** -/
theorem liesIn_join {root child : Path} (hroot : root.isAbsolute = true)
    (hchild : child.isAbsolute = false) : (root.join child).LiesIn root := by
  have hne := text_ne_empty hroot
  refine ⟨(pieces_join hchild hne).1.trans hroot, ?_, root.seam ++ child.text, ?_⟩
  · rw [parts_join hne hchild]
    exact List.prefix_append ..
  · rw [text_join hne hchild, String.append_assoc]

/-! ## §6. The parts of what is resolved. -/

/-- Names that go one below the other are parts, in their order. -/
theorem parts_foldl {names : List String}
    (hnames : ∀ name ∈ names, name ≠ "" ∧ name ≠ "." ∧ '/' ∉ name.toList) {p : Path}
    (hp : p.text ≠ "") :
    (names.foldl (fun q s => q.join ⟨s⟩) p).parts = p.parts ++ names
      ∧ (names.foldl (fun q s => q.join ⟨s⟩) p).text ≠ "" := by
  induction names generalizing p with
  | nil => exact ⟨(List.append_nil _).symm, hp⟩
  | cons name rest ih =>
      obtain ⟨hne, hdot, hslash⟩ := hnames name (List.mem_cons_self ..)
      have hrelative := isAbsolute_of_notMem hslash
      have hjoined : (p.join ⟨name⟩).text ≠ "" := by
        rw [text_join hp hrelative]
        exact fun hempty => hne (String.append_eq_empty_iff.mp hempty).2
      obtain ⟨hparts, htext⟩ := ih (fun s hs => hnames s (List.mem_cons_of_mem _ hs)) hjoined
      refine ⟨hparts.trans ?_, htext⟩
      rw [parts_join hp hrelative, List.append_assoc,
        show (⟨name⟩ : Path).parts = [name] from names_of_notMem hslash hne hdot]
      rfl

/-- What is resolved starts from the working directory or, with a slash in front,
from a root that has no parts. -/
theorem parts_base (p cwd : Path) :
    (p.base cwd).parts = if p.isAbsolute then [] else cwd.parts := by
  unfold base isAbsolute
  split
  · rename_i h
    rw [h]
    rfl
  · rename_i h
    rw [h]
    rfl
  · rename_i h
    rw [h]
    rfl
  · rename_i hnone
    rw [if_neg]
    rw [beq_iff_eq]
    exact fun hhead => hnone _ (List.cons_head?_tail hhead).symm

theorem text_base_ne_empty {cwd : Path} (hcwd : cwd.text ≠ "") (p : Path) :
    (p.base cwd).text ≠ "" := by
  unfold base
  split
  · decide
  · decide
  · decide
  · exact hcwd

/-- **What is resolved has the parts of the path**, behind those of the working
directory if the path is relative. -/
theorem parts_absolute? {cwd p root : Path} (hcwd : cwd.text ≠ "")
    (h : absolute? cwd p = some root) :
    root.parts = (if p.isAbsolute then [] else cwd.parts) ++ p.parts := by
  obtain ⟨hparts, htext⟩ :=
    parts_foldl (fun name (hname : name ∈ p.parts) => of_mem_parts hname) (text_base_ne_empty hcwd p)
  rw [parts_base] at hparts
  unfold absolute? at h
  split at h
  · cases h
  · cases h
    split
    · -- The slash at the end adds no part.
      rw [parts_join htext rfl, hparts]
      exact List.append_nil _
    · exact hparts

end Path
end Provision
