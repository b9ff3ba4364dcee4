import Stencil.Proofs.Formless
import Stencil.Proofs.RestoredGaps

/-!
# Restored style sheets hold no forms

With the standard markers nothing that is done to a gap puts the two ends of a form together, so a
restored style sheet is formless as the unshielded one was. To restore it once more is to settle its
tokens once more.
-/

namespace Stencil.Adjacency

open Stencil.Text Stencil.Token Stencil.Shield

variable {rules : List Rule} {gap gap' css out : List Char}
  {tail tail' : List (List Char × List Char)}

theorem Adjusted.formless (h : Adjusted gap gap') (hgap : Formless gap) : Formless gap' := by
  have hspace : isForeign ' ' = true := by decide
  have hsign : isForeign '%' = true := by decide
  cases h with
  | same => exact hgap
  | spaced => exact (formless_cons_iff hspace).2 hgap
  | percentSpaced rest =>
    rw [formless_cons_iff hsign] at hgap
    rw [formless_cons_iff hsign, formless_cons_iff hspace]
    exact hgap
  | joined => exact hgap.of_inside (List.dropWhile_suffix _).isInfix
  | oneSpace =>
    rw [formless_cons_iff hspace]
    exact hgap.of_inside (List.dropWhile_suffix _).isInfix

theorem AdjustedTail.formless (h : AdjustedTail tail tail') (htail : ∀ q ∈ tail, Formless q.2) :
    ∀ q ∈ tail', Formless q.2 := by
  induction h with
  | nil => exact htail
  | cons ht _ ih =>
    obtain ⟨hgap, hmore⟩ := List.forall_mem_cons.1 htail
    exact List.forall_mem_cons.2 ⟨ht.2.formless hgap, ih hmore⟩

theorem formless_settledText {s : List Char} (hs : Formless s) :
    Formless (settledText .standard rules s) := by
  have hreads : ∀ q ∈ (Markers.standard.cut s).tail, Markers.standard.lexeme.Reads q.1 :=
    (Markers.standard.rigid_lexeme.apart_cut s).reads
  have htext : (Markers.standard.cut s).head ++
      woven Markers.standard.token (Markers.standard.cut s).tail = s :=
    Markers.standard.lexeme.weave_cut s
  rw [← htext, formless_woven_iff hreads] at hs
  rw [settledText_eq, formless_woven_iff (reads_settled hreads)]
  exact ⟨hs.1, (adjustedTail_settled _).formless hs.2⟩

theorem formless_of_restoreText (h : restoreText .standard css rules = .ok out) :
    Formless out := by
  obtain ⟨s, hs, rfl⟩ := restoreText_eq_ok_iff.1 h
  exact formless_settledText (formless_of_unshield hs)

theorem restoreText_of_formless {s : List Char} (hs : Formless s) (rules : List Rule) :
    restoreText .standard s rules = .ok (settledText .standard rules s) :=
  restoreText_eq_ok_iff.2 ⟨s, unshield_of_formless _ hs, rfl⟩

end Stencil.Adjacency
