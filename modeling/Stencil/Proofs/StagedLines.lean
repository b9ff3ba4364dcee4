import Stencil.Proofs.LooseUses
import Stencil.Proofs.RunFaults
import Stencil.Proofs.StandardTokens

/-!
# Lines of a staged source

Staging keeps every line where it was. Rewriting goes line by line, and no token and no form holds a
line feed, so a staged line is made of one line of the source: a use rule in front may have become
an import, and forms stand in for the tokens. A refusal names the first line with a use rule of
which no import can be made, by its number in the source with the preamble: `stage_lines`.
-/

namespace Stencil.Source

open Stencil.Text Stencil.Number Stencil.Token Stencil.Shield

variable {s t out : List Char} {gap rest : List Char} {d : Dialect} {lines : List (List Char)}
  {tail : List (List Char × List Char)} {forms : List (Form × List Char)}

/-! ### Forms for tokens -/

/-- Whether a form and what is left of the gap behind it, `x`, may stand in for a token and its gap,
`q`: the form has the index of the token and takes what it covers from the gap. -/
structure StandsIn (q : List Char × List Char) (x : Form × List Char) : Prop where
  index : x.1.digits = numeral (value q.1)
  gap : q.2 = x.1.kind.covered ++ x.2

/-- Whether a text is `s` with a form, of whatever kind, for every token. -/
def HoldsForms (s out : List Char) : Prop :=
  ∃ forms, List.Forall₂ StandsIn (Markers.standard.cut s).tail forms ∧
    out = (Markers.standard.cut s).head ++ woven Form.written forms

theorem standsIn_shielded (d : Dialect) (before : List Char)
    (tail : List (List Char × List Char)) :
    List.Forall₂ StandsIn tail (shielded .standard d before tail) := by
  induction tail generalizing before with
  | nil => exact .nil
  | cons q more ih =>
    obtain ⟨digits, gap⟩ := q
    rw [shielded_cons]
    exact .cons ⟨rfl, (covered_append_drop rfl).symm⟩ (ih _)

theorem holdsForms_of_shield (h : shield .standard d s = .ok out) : HoldsForms s out := by
  obtain ⟨-, rfl⟩ := shield_eq_ok_iff.1 h
  exact ⟨_, standsIn_shielded d _ _, rfl⟩

/-! ### One line and the lines below -/

theorem standard_avoids_newline : Markers.standard.lexeme.Avoids '\n' :=
  Markers.standard_avoids_of_isBlank (by decide)

theorem exists_covered_of_glue {e : Cut (List Char)} {k : Kind}
    (h : ((e.consChar '\n').glue gap tail).head = k.covered ++ rest) :
    ∃ gap', gap = k.covered ++ gap' := by
  cases tail with
  | cons q more => exact ⟨rest, h⟩
  | nil =>
    cases k with
    | plain => exact ⟨gap, rfl⟩
    | statement => exact ⟨gap, rfl⟩
    | percent =>
      cases gap with
      | nil => simp [Cut.glue, Cut.consChar, Kind.covered] at h
      | cons c gap =>
        obtain ⟨rfl, -⟩ := List.cons.inj h
        exact ⟨gap, rfl⟩

/-- Where forms stand in for the tokens of two cuts that meet at a line feed, they do so in each of
the two. -/
theorem exists_forms_of_glue {e : Cut (List Char)}
    (h : List.Forall₂ StandsIn ((e.consChar '\n').glue gap tail).tail forms) :
    ∃ front back, List.Forall₂ StandsIn tail front ∧ List.Forall₂ StandsIn e.tail back ∧
      ((e.consChar '\n').glue gap tail).head ++ woven Form.written forms =
        gap ++ woven Form.written front ++ '\n' :: (e.head ++ woven Form.written back) := by
  induction tail generalizing gap forms with
  | nil =>
    refine ⟨[], forms, .nil, h, ?_⟩
    simp [Cut.glue, Cut.consChar]
  | cons q more ih =>
    obtain ⟨digits, next⟩ := q
    rw [Cut.glue, Cut.consLexeme] at h ⊢
    obtain ⟨⟨f, behind⟩, forms, ⟨hindex, hgap⟩, hforms, rfl⟩ := List.forall₂_cons_left_iff.1 h
    obtain ⟨front, back, hfront, hback, htext⟩ := ih hforms
    obtain ⟨next, rfl⟩ := exists_covered_of_glue hgap
    refine ⟨(f, next) :: front, back, .cons ⟨hindex, rfl⟩ hfront, hback, ?_⟩
    rw [show ((e.consChar '\n').glue (f.kind.covered ++ next) more).head = _ from hgap,
      List.append_assoc, List.append_assoc, List.append_assoc] at htext
    have hbehind := List.append_cancel_left htext
    rw [woven_cons, woven_cons, hbehind]
    simp only [List.append_assoc]

theorem HoldsForms.split (h : HoldsForms (s ++ '\n' :: t) out) :
    ∃ x y, HoldsForms s x ∧ HoldsForms t y ∧ out = x ++ '\n' :: y := by
  obtain ⟨forms, hforms, rfl⟩ := h
  have hcut := Markers.standard.rigid_lexeme.cut_append_cons standard_avoids_newline s t
  rw [Markers.cut, hcut, Cut.append] at hforms ⊢
  obtain ⟨front, back, hfront, hback, htext⟩ := exists_forms_of_glue hforms
  exact ⟨_, _, ⟨front, hfront, rfl⟩, ⟨back, hback, rfl⟩, htext⟩

theorem newline_not_mem_written {f : Form} (hf : Form.lexeme.Reads f) : '\n' ∉ f.written := by
  have hsides : ∀ k : Kind, '\n' ∉ k.left ∧ '\n' ∉ k.right := by
    intro k
    cases k <;> decide
  exact Form.not_mem_of_sides hsides (by decide) hf

theorem newline_not_mem_woven (h : List.Forall₂ StandsIn tail forms)
    (htail : '\n' ∉ woven Markers.standard.token tail) : '\n' ∉ woven Form.written forms := by
  induction h with
  | nil => exact htail
  | @cons q x tail forms hx _ ih =>
    obtain ⟨digits, gap⟩ := q
    obtain ⟨⟨k, index⟩, rest⟩ := x
    obtain rfl : index = numeral (value digits) := hx.index
    obtain rfl : gap = k.covered ++ rest := hx.gap
    rw [woven_cons] at htail ⊢
    simp only [List.mem_append, not_or] at htail ⊢
    exact ⟨newline_not_mem_written (reads_numeral _ _), htail.2.1.2, ih htail.2.2⟩

theorem HoldsForms.newline_not_mem (h : HoldsForms s out) (hs : '\n' ∉ s) : '\n' ∉ out := by
  obtain ⟨forms, hforms, rfl⟩ := h
  have htext : (Markers.standard.cut s).head ++
      woven Markers.standard.token (Markers.standard.cut s).tail = s :=
    Markers.standard.lexeme.weave_cut s
  rw [← htext] at hs
  simp only [List.mem_append, not_or] at hs ⊢
  exact ⟨hs.1, newline_not_mem_woven hforms hs.2⟩

theorem exists_lines_of_holdsForms (hne : lines ≠ []) (h : HoldsForms (joinNewlines lines) out) :
    ∃ outs, outs ≠ [] ∧ List.Forall₂ HoldsForms lines outs ∧ out = joinNewlines outs := by
  induction lines generalizing out with
  | nil => exact absurd rfl hne
  | cons line lines ih =>
    by_cases hnil : lines = []
    · subst hnil
      rw [joinNewlines_singleton] at h
      exact ⟨[out], by simp, .cons h .nil, (joinNewlines_singleton out).symm⟩
    · rw [joinNewlines_cons hnil] at h
      obtain ⟨x, y, hx, hy, rfl⟩ := h.split
      obtain ⟨outs, houts, hall, rfl⟩ := ih hnil hy
      exact ⟨x :: outs, by simp, .cons hx hall, (joinNewlines_cons houts).symm⟩

theorem HoldsForms.onLines (h : HoldsForms s out) :
    List.Forall₂ HoldsForms (splitNewlines s) (splitNewlines out) := by
  rw [← joinNewlines_splitNewlines s] at h
  obtain ⟨outs, hne, hall, rfl⟩ := exists_lines_of_holdsForms (splitNewlines_ne_nil s) h
  have hclean : ∀ line ∈ outs, '\n' ∉ line :=
    forall_mem_of_forall₂ hall (fun _ _ hline => hline.newline_not_mem)
      (newline_not_mem_of_mem_splitNewlines s)
  rwa [splitNewlines_joinNewlines hne hclean]

/-! ### Rewritten lines -/

theorem rewritten_onLines (h : rewriteUse s = .ok out) :
    List.Forall₂ Rewritten (splitNewlines s) (splitNewlines out) := by
  obtain ⟨lines', hlines, rfl⟩ := map_eq_ok_iff.1 h
  have hall := rewriteLines_eq_ok_iff.1 hlines
  have hne : lines' ≠ [] := by
    rintro rfl
    exact splitNewlines_ne_nil s (List.forall₂_nil_right_iff.1 hall)
  have hclean : ∀ line ∈ lines', '\n' ∉ line :=
    forall_mem_of_forall₂ hall (fun _ _ => newline_not_mem_of_rewriteLine)
      (newline_not_mem_of_mem_splitNewlines s)
  rw [splitNewlines_joinNewlines hne hclean]
  exact hall.imp fun _ _ => rewriteLine_eq_some_iff.1

theorem Rewritten.again {line line' : List Char} (h : Rewritten line line') :
    Rewritten line' line' := by
  apply Rewritten.kept
  rw [← beginsUse_iff, beginsUse_of_rewriteLine (rewriteLine_eq_some_iff.2 h)]
  exact Bool.false_ne_true

theorem rewriteUse_twice (h : rewriteUse s = .ok out) : rewriteUse out = .ok out := by
  have hlines : ∀ line ∈ splitNewlines out, rewriteLine line = some line :=
    forall_mem_of_forall₂ (rewritten_onLines h)
      (fun _ _ hline _ => rewriteLine_eq_some_iff.2 hline.again) fun _ _ => trivial
  exact map_eq_ok_iff.2 ⟨splitNewlines out, rewriteLines_eq_ok_iff.2 (List.forall₂_same.2 hlines),
    joinNewlines_splitNewlines out⟩

/-! ### Staging -/

/-- Whether a line becomes another one by staging: a plain use rule in front is written as an
import, and forms stand in for the tokens. -/
def StagedLine (line out : List Char) : Prop :=
  ∃ line', Rewritten line line' ∧ HoldsForms line' out

theorem forall₂_stagedLine {lines lines' outs : List (List Char)}
    (h : List.Forall₂ Rewritten lines lines') (h' : List.Forall₂ HoldsForms lines' outs) :
    List.Forall₂ StagedLine lines outs := by
  induction h generalizing outs with
  | nil =>
    obtain rfl := List.forall₂_nil_left_iff.1 h'
    exact .nil
  | cons hline _ ih =>
    obtain ⟨out, outs, hout, houts, rfl⟩ := List.forall₂_cons_left_iff.1 h'
    exact .cons ⟨_, hline, hout⟩ (ih houts)

theorem assembled_block {o : Options} (hdialect : o.dialect = .block) (source : List Char) :
    assembled o source = .ok (withPreamble o source) := by
  unfold assembled unindented
  rw [hdialect]
  rfl

/-- Staging with the usual markers in the block dialect makes each line of one line of the source
with the preamble, and there are as many of them. Where no import can be made of a use rule, the
fault names the first line where that is so. What use rules were rewritten to is not rewritten
again. -/
theorem stage_lines {o : Options} (hmarkers : o.markers = .standard) (hdialect : o.dialect = .block)
    (source : List Char) :
    (∀ staged, stage source o = .ok staged →
      countNewlines staged.text = countNewlines (withPreamble o source) ∧
        List.Forall₂ StagedLine (splitNewlines (withPreamble o source))
          (splitNewlines staged.text)) ∧
    (∀ e, stage source o = .error e ∧ e.category = .compilation ↔
      reserved? (withPreamble o source) = none ∧ ∃ number line,
        FirstLine Refused (splitNewlines (withPreamble o source)) number line ∧
          e = .unsupportedUse ⟨strip line, number⟩ ∧ e.position = ⟨some number, none⟩) ∧
    ∀ s out, rewriteUse s = .ok out → rewriteUse out = .ok out := by
  refine ⟨fun staged h => ?_, fun e => ?_, fun _ _ => rewriteUse_twice⟩
  · obtain ⟨text, rewritten, shielded, htext, -, huse, hshield, rfl⟩ := stage_eq_ok_iff.1 h
    obtain rfl := Except.ok.inj ((assembled_block hdialect source).symm.trans htext)
    rw [hmarkers] at hshield
    have hforms := (holdsForms_of_shield hshield).onLines
    have hlines := forall₂_stagedLine (rewritten_onLines huse) hforms
    refine ⟨?_, hlines⟩
    have hlength := hlines.length_eq
    rw [length_splitNewlines, length_splitNewlines] at hlength
    exact (Nat.succ.inj hlength).symm
  · rw [stage_eq_error_iff]
    constructor
    · rintro ⟨h, hcategory⟩
      cases h with
      | misindented hother _ => exact absurd (hdialect.symm.trans hother) (by decide)
      | reserved _ _ => cases hcategory
      | unsupportedUse htext hfree h =>
        obtain rfl := Except.ok.inj ((assembled_block hdialect source).symm.trans htext)
        obtain ⟨number, line, hfirst, rfl⟩ := rewriteUse_eq_error_iff.1 h
        exact ⟨hfree, number, line, hfirst, rfl, rfl⟩
      | tooLong _ _ _ _ => cases hcategory
    · rintro ⟨hfree, number, line, hfirst, rfl, -⟩
      have h := rewriteUse_eq_error_iff.2 ⟨number, line, hfirst, rfl⟩
      exact ⟨.unsupportedUse (assembled_block hdialect _) hfree h, rfl⟩

def twoLines : Options :=
  { preamble := "$a: 1;\n@use 'p'" }

def numberedSheet (last : String) : List Char :=
  ("@use 'a' as * ;%%styled-jsx-placeholder-0%%%\n" ++ last).toList

def stagedSheet : List Char :=
  "$a: 1;\n@import 'p'\n@import 'a';__sjx_pct_0__\n@import url(d);".toList

theorem stage_lines_preamble :
    stage (numberedSheet "@import url(d);") twoLines = .ok ⟨stagedSheet, .block, []⟩ ∧
      List.Forall₂ StagedLine
        (splitNewlines (withPreamble twoLines (numberedSheet "@import url(d);")))
        (splitNewlines stagedSheet) ∧
      stage (numberedSheet "@use 'sass:math';") twoLines =
        .error (.unsupportedUse ⟨"@use 'sass:math';".toList, 4⟩) ∧
      ∃ line, FirstLine Refused
        (splitNewlines (withPreamble twoLines (numberedSheet "@use 'sass:math';"))) 4 line := by
  have hmarkers : twoLines.markers = .standard := rfl
  have hdialect : twoLines.dialect = .block := rfl
  have hstage : stage (numberedSheet "@import url(d);") twoLines = .ok ⟨stagedSheet, .block, []⟩ :=
    stage_eq_ok_iff.2 ⟨withPreamble twoLines (numberedSheet "@import url(d);"),
      "$a: 1;\n@import 'p'\n@import 'a';%%styled-jsx-placeholder-0%%%\n@import url(d);".toList,
      stagedSheet, assembled_block hdialect _, by decide +kernel, by decide +kernel,
      by decide +kernel, rfl⟩
  have huse : rewriteUse (withPreamble twoLines (numberedSheet "@use 'sass:math';")) =
      .error ⟨"@use 'sass:math';".toList, 4⟩ := by decide +kernel
  have hrefused : stage (numberedSheet "@use 'sass:math';") twoLines =
      .error (.unsupportedUse ⟨"@use 'sass:math';".toList, 4⟩) :=
    stage_eq_error_iff.2 (.unsupportedUse (assembled_block hdialect _) (by decide +kernel) huse)
  obtain ⟨-, number, line, hfirst, hfault, -⟩ :=
    ((stage_lines hmarkers hdialect _).2.1 _).1 ⟨hrefused, rfl⟩
  obtain ⟨-, rfl⟩ : _ ∧ 4 = number := by simpa using hfault
  exact ⟨hstage, ((stage_lines hmarkers hdialect _).1 _ hstage).2, hrefused, line, hfirst⟩

end Stencil.Source
