import Stencil.Proofs.RenumberedTexts
import Stencil.Proofs.RestoredForms
import Stencil.Proofs.ShieldKinds

/-!
# Indices carry no information

The index of a token is read so that it can be written again, and nothing else is done with it. So
the indices of a text may be changed before it is restored or shielded, or afterwards, with the same
result. Indices may become longer or shorter on the way, and different ones may become the same:
`restoreText_shield_renumber`.
-/

namespace Stencil.Adjacency

open Stencil.Text Stencil.Number Stencil.Token Stencil.Shield

def renumberDigits (σ : Nat → Nat) (digits : List Char) : List Char :=
  numeral (σ (value digits))

/-- A text with every token written anew and its index changed by `σ`. -/
def renumber (σ : Nat → Nat) (s : List Char) : List Char :=
  (Markers.standard.cut s).weave fun digits => Markers.standard.token (renumberDigits σ digits)

def renumberForm (σ : Nat → Nat) (f : Form) : Form :=
  ⟨f.kind, renumberDigits σ f.digits⟩

def renumberForms (σ : Nat → Nat) (s : List Char) : List Char :=
  (Form.lexeme.cut s).weave fun f => (renumberForm σ f).written

variable {σ : Nat → Nat} {b b' digits gap s text : List Char} {d : Dialect} {rules : List Rule}
  {tail : List (List Char × List Char)}

/-! ### Tokens with other indices -/

theorem reads_renumberDigits (σ : Nat → Nat) (digits : List Char) :
    Markers.standard.lexeme.Reads (renumberDigits σ digits) :=
  Markers.standard.reads_iff.2 ⟨numeral_ne_nil _, isDecimal_of_mem_numeral⟩

theorem cut_renumber (σ : Nat → Nat) (s : List Char) :
    Markers.standard.cut (renumber σ s) =
      ⟨(Markers.standard.cut s).head,
        (Markers.standard.cut s).tail.map fun q => (renumberDigits σ q.1, q.2)⟩ :=
  Markers.standard_cut_respelled (fun digits _ => reads_renumberDigits σ digits) s

theorem renumbered_woven (htail : ∀ q ∈ tail, Markers.standard.lexeme.Reads q.1) :
    Renumbered (woven Markers.standard.token tail)
      (woven Markers.standard.token (tail.map fun q => (renumberDigits σ q.1, q.2))) :=
  .woven htail fun q _ => reads_renumberDigits σ q.1

theorem renumbered_next (hb : Renumbered b b') (hdigits : Markers.standard.lexeme.Reads digits) :
    Renumbered (b ++ Markers.standard.token digits ++ gap)
      (b' ++ Markers.standard.token (renumberDigits σ digits) ++ gap) := by
  have htoken := Renumbered.token hdigits (reads_renumberDigits σ digits) (.refl gap)
  rw [List.append_assoc, List.append_assoc]
  exact hb.append htoken

theorem settled_renumber (hb : Renumbered b b')
    (htail : ∀ q ∈ tail, Markers.standard.lexeme.Reads q.1) :
    settled .standard rules b' (tail.map fun q => (renumberDigits σ q.1, q.2)) =
      (settled .standard rules b tail).map fun q => (renumberDigits σ q.1, q.2) := by
  -- The texts before a token differ more and more, but in the digits of tokens alone.
  induction tail generalizing b b' with
  | nil => rfl
  | cons q more ih =>
    obtain ⟨digits, gap⟩ := q
    obtain ⟨hdigits, hmore⟩ := List.forall_mem_cons.1 htail
    have hafter := (Renumbered.refl gap).append (renumbered_woven (σ := σ) hmore)
    rw [List.map_cons, settled_cons, settled_cons, List.map_cons,
      Renumbered.chosen_eq hb hafter, ih (renumbered_next hb hdigits) hmore]

theorem shielded_renumber (hb : Renumbered b b')
    (htail : ∀ q ∈ tail, Markers.standard.lexeme.Reads q.1) :
    shielded .standard d b' (tail.map fun q => (renumberDigits σ q.1, q.2)) =
      (shielded .standard d b tail).map fun q => (renumberForm σ q.1, q.2) := by
  induction tail generalizing b b' with
  | nil => rfl
  | cons q more ih =>
    obtain ⟨digits, gap⟩ := q
    obtain ⟨hdigits, hmore⟩ := List.forall_mem_cons.1 htail
    have hafter := (Renumbered.refl gap).append (renumbered_woven (σ := σ) hmore)
    have hindex : numeral (value (renumberDigits σ digits)) =
        renumberDigits σ (numeral (value digits)) := by
      rw [renumberDigits, renumberDigits, value_numeral, value_numeral]
    rw [List.map_cons, shielded_cons, shielded_cons, List.map_cons,
      Renumbered.kindAt_eq hb hafter, ih (renumbered_next hb hdigits) hmore, hindex, renumberForm]

/-! ### Whole texts -/

theorem reads_tail (s : List Char) :
    ∀ q ∈ (Markers.standard.cut s).tail, Markers.standard.lexeme.Reads q.1 :=
  (Markers.standard.rigid_lexeme.apart_cut s).reads

theorem settledText_renumber (σ : Nat → Nat) (rules : List Rule) (s : List Char) :
    settledText .standard rules (renumber σ s) = renumber σ (settledText .standard rules s) := by
  calc
    _ = (Markers.standard.cut s).head ++ woven Markers.standard.token (settled .standard rules
          (Markers.standard.cut s).head
          ((Markers.standard.cut s).tail.map fun q => (renumberDigits σ q.1, q.2))) := by
      rw [settledText_eq, cut_renumber]
    _ = (Markers.standard.cut s).head ++ woven Markers.standard.token
          ((settled .standard rules (Markers.standard.cut s).head
            (Markers.standard.cut s).tail).map fun q => (renumberDigits σ q.1, q.2)) := by
      rw [settled_renumber (.refl _) (reads_tail s)]
    _ = renumber σ (settledText .standard rules s) := by
      rw [renumber, cut_settledText Markers.standard_head?_ne_space, Cut.weave_eq, woven_map]

theorem formless_renumber (σ : Nat → Nat) (hs : Formless s) : Formless (renumber σ s) := by
  have htext : (Markers.standard.cut s).head ++
      woven Markers.standard.token (Markers.standard.cut s).tail = s :=
    Markers.standard.lexeme.weave_cut s
  rw [← htext, formless_woven_iff (reads_tail s)] at hs
  obtain ⟨hhead, hgaps⟩ := hs
  rw [renumber, Cut.weave_eq, ← woven_map, formless_woven_iff]
  · exact ⟨hhead, List.forall_mem_map.2 hgaps⟩
  · exact List.forall_mem_map.2 fun q _ => reads_renumberDigits σ q.1

theorem restoreText_renumber (σ : Nat → Nat) (rules : List Rule) (hs : Formless s) :
    ∃ out, restoreText .standard s rules = .ok out ∧
      restoreText .standard (renumber σ s) rules = .ok (renumber σ out) := by
  refine ⟨_, restoreText_of_formless hs rules, ?_⟩
  rw [← settledText_renumber]
  exact restoreText_of_formless (formless_renumber σ hs) rules

theorem shield_of_short (d : Dialect) (hshort : Short s) :
    shield .standard d s = .ok (shieldedText .standard d s) :=
  shield_eq_ok_iff_shieldedText.2 ⟨hshort, rfl⟩

theorem shieldedText_renumber (σ : Nat → Nat) (d : Dialect) (hname : ¬ commonStem <:+: s) :
    shieldedText .standard d (renumber σ s) = renumberForms σ (shieldedText .standard d s) := by
  have hcut := Form.rigid_lexeme.cut_woven (apart_shielded_cut (m := .standard) hname d)
  rw [Form.lexeme_written] at hcut
  calc
    _ = (Markers.standard.cut s).head ++ woven Form.written (shielded .standard d
          (Markers.standard.cut s).head
          ((Markers.standard.cut s).tail.map fun q => (renumberDigits σ q.1, q.2))) := by
      rw [shieldedText, cut_renumber]
    _ = (Markers.standard.cut s).head ++ woven Form.written
          ((shielded .standard d (Markers.standard.cut s).head
            (Markers.standard.cut s).tail).map fun q => (renumberForm σ q.1, q.2)) := by
      rw [shielded_renumber (.refl _) (reads_tail s)]
    _ = renumberForms σ (shieldedText .standard d s) := by
      rw [renumberForms, shieldedText, hcut, Cut.weave_eq, woven_map]

/-- Renumbering the tokens of a text and then restoring or shielding it, in either dialect, is the
same as restoring or shielding it and then renumbering the tokens or the forms. Shielding asks for
indices that are not too long, and restoring for nothing. -/
theorem restoreText_shield_renumber (hname : ¬ commonStem <:+: text) (σ : Nat → Nat)
    (rules : List Rule) :
    (∃ out, restoreText .standard text rules = .ok out ∧
      restoreText .standard (renumber σ text) rules = .ok (renumber σ out)) ∧
    ∀ d, Short text → Short (renumber σ text) →
      ∃ out, shield .standard d text = .ok out ∧
        shield .standard d (renumber σ text) = .ok (renumberForms σ out) := by
  refine ⟨restoreText_renumber σ rules (formless_of_not_commonStem hname), ?_⟩
  intro d hshort hshort'
  refine ⟨_, shield_of_short d hshort, ?_⟩
  rw [← shieldedText_renumber σ d hname]
  exact shield_of_short d hshort'

/-- A source with a token alone on its line, one with a percent sign behind it, one with digits of
another script, and blanks in front of a unit. -/
def indexedSource : List Char :=
  ("%%styled-jsx-placeholder-7%%\na\x7bw:%%styled-jsx-placeholder-007%%%;" ++
    "h:%%styled-jsx-placeholder-٣%% px\x7d").toList

def renumberedSource : List Char :=
  ("%%styled-jsx-placeholder-1200%%\na\x7bw:%%styled-jsx-placeholder-1200%%%;" ++
    "h:%%styled-jsx-placeholder-1200%% px\x7d").toList

theorem restoreText_shield_renumber_indexedSource :
    ¬ commonStem <:+: indexedSource ∧
      renumber (fun _ => 1200) indexedSource = renumberedSource ∧
      (∃ out, restoreText .standard indexedSource = .ok out ∧
        restoreText .standard renumberedSource = .ok (renumber (fun _ => 1200) out)) ∧
      Short indexedSource ∧ Short renumberedSource ∧
      ∀ d, ∃ out, shield .standard d indexedSource = .ok out ∧
        shield .standard d renumberedSource = .ok (renumberForms (fun _ => 1200) out) := by
  have hname : ¬ commonStem <:+: indexedSource := by decide +kernel
  have hsource : renumber (fun _ => 1200) indexedSource = renumberedSource := by decide +kernel
  have hshort : Short indexedSource := by unfold Short; decide +kernel
  have hshort' : Short renumberedSource := by unfold Short; decide +kernel
  obtain ⟨hrestored, hshielded⟩ :=
    restoreText_shield_renumber hname (fun _ => 1200) Rule.table
  rw [hsource] at hrestored hshielded
  exact ⟨hname, hsource, hrestored, hshort, hshort', fun d => hshielded d hshort hshort'⟩

end Stencil.Adjacency
