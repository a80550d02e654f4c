/-
  Provision.Proofs.SettingsTexts
  ──────────────────────────────
  **LOADING A FILE OF PAIRS.**

  A settings file holds the lines of a mapping, and its last line need not be
  ended.  Such a file is never blank and is read as it is, so that loading it
  gives what its text is decoded to, or tells the fault under its path.

  Main results:

    `loadFile_text`     loading a file of pairs decodes its text
    `loadFile_pairs`    it gives what the pairs make of the defaults
-/
import Provision.Proofs.LastLine
import Provision.Proofs.WrittenSettings

namespace Provision

open Provision.Text
open Provision.Yaml (IsTextOf Pair Puts decodeText pairLines)

namespace Settings

section Texts

variable {text : String} {ps : List Pair} (htext : IsTextOf text.toList (pairLines ps))
include htext

/-- Each character of the text is one of the lines. -/
theorem mem_lines {c : Char} (hc : c ∈ text.toList) : c ∈ Yaml.written (pairLines ps) := by
  rcases htext with htext | htext
  · exact htext ▸ hc
  · exact htext ▸ List.mem_append_left _ hc

/-- Each character of the lines but a line break is one of the text. -/
theorem mem_text {c : Char} (hc : c ∈ Yaml.written (pairLines ps)) (hbreak : c ≠ '\n') :
    c ∈ text.toList := by
  rcases htext with htext | htext
  · exact htext ▸ hc
  · rw [← htext, List.mem_append, List.mem_singleton] at hc
    exact hc.resolve_right hbreak

/-- **Loading a file of pairs decodes its text.** -/
theorem loadFile_text (h : ∀ p ∈ ps, p.Legible) (hne : ps ≠ []) (a : CommandLine.Arguments)
    (m : Machine) (path : Path) (s : MachineState)
    (hfile : s.files.read m.workingDirectory path = .ok (Utf8.encode text)) :
    ∃ t, s.OnlyLogged t ∧ (loadFile path).perform (Run.layer a m.host) s
      = ((decodeText decoder text).mapError fun fault => .settingsUnreadable path fault.message,
          t) := by
  obtain ⟨x, hx, hplain⟩ := exists_plainChar_lines h hne
  have hblank : allBlank text = false :=
    allBlank_of_plainChar (mem_text htext hx (Yaml.ne_of_plainChar hplain (by decide))) hplain
  have hbytes : ofBytes path (Utf8.encode text)
      = (decodeText decoder text).mapError fun fault => .settingsUnreadable path fault.message := by
    unfold ofBytes
    rw [Utf8.text?_encode fun c hc => isAscii_lines h c (mem_lines htext hc)]
    show (match ofText text with | _ => _) = _
    unfold ofText
    rw [hblank, if_neg Bool.false_ne_true]
    cases decodeText decoder text <;> rfl
  obtain ⟨t, ht, hload⟩ := perform_loadFile a m path s
  refine ⟨t, ht, hload.trans ?_⟩
  rw [hfile]
  exact congrArg (·, t) hbytes

end Texts

/-- **A file of pairs gives what they make of the defaults.** -/
theorem loadFile_pairs {β : Type} (pair : β → Pair) (put : β → Settings → Settings) {bs : List β}
    {text : String} (htext : IsTextOf text.toList (pairLines (bs.map pair)))
    (hlegible : ∀ b ∈ bs, (pair b).Legible) (hshort : ∀ b ∈ bs, (pair b).IsShort)
    (hputs : ∀ b ∈ bs, Puts fields (pair b) (put b))
    (hkeys : (bs.map fun b => String.ofList (pair b).key).Nodup) (hne : bs ≠ [])
    (a : CommandLine.Arguments) (m : Machine) (path : Path) (s : MachineState)
    (hfile : s.files.read m.workingDirectory path = .ok (Utf8.encode text)) :
    ∃ t, s.OnlyLogged t ∧ (loadFile path).perform (Run.layer a m.host) s
      = (.ok (bs.foldl (fun s b => put b s) defaults), t) := by
  have hpairs : bs.map pair ≠ [] := fun hnil => hne (List.map_eq_nil_iff.mp hnil)
  have hlegible' : ∀ p ∈ bs.map pair, p.Legible := List.forall_mem_map.mpr hlegible
  have hparse := Yaml.document_text htext hlegible' (List.forall_mem_map.mpr hshort) hpairs
  have hdecode := Yaml.decodeText_pairs "Settings" defaults hparse hputs hkeys
  obtain ⟨t, ht, hload⟩ := loadFile_text htext hlegible' hpairs a m path s hfile
  refine ⟨t, ht, hload.trans ?_⟩
  show ((decodeText decoder text).mapError _, t) = _
  unfold decoder
  rw [hdecode]
  rfl

end Settings

end Provision
