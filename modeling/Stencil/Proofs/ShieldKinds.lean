import Stencil.Proofs.Formless
import Stencil.Proofs.RestoredTokens

/-!
# The kind of a form does not show

Forms of all kinds hold the same six characters in front of the label of their kind. In a text
without these characters the only forms of the shielded text are those that were put there, so
unshielding finds every one of them, whatever stands around it and whether forms stand side by side.
It gives every token back in plain digits and everything else as it was. The kinds differ from
dialect to dialect, and after restoration nothing is left of them: `restoreText_shield`.
-/

namespace Stencil.Adjacency

open Stencil.Text Stencil.Number Stencil.Token Stencil.Shield

def commonStem : List Char :=
  ['_', '_', 's', 'j', 'x', '_']

variable {m : Markers} {d : Dialect} {gap before text : List Char} {f : Form}
  {tail : List (List Char × List Char)}

theorem commonStem_inside_left (k : Kind) : commonStem <:+: k.left := by
  cases k <;> decide

theorem commonStem_inside_written (f : Form) : commonStem <:+: f.written := by
  rw [Form.written, List.append_assoc]
  exact (commonStem_inside_left f.kind).trans List.infix_append_left

theorem formless_of_not_commonStem (h : ¬ commonStem <:+: gap) : Formless gap :=
  fun f _ hf => h ((commonStem_inside_written f).trans hf)

/-- Where the common characters are missing, no form begins that goes on into the next one. -/
theorem silent_of_not_commonStem (h : ¬ commonStem <:+: gap) (f : Form) :
    Form.lexeme.Silent gap f.written := by
  intro u hne hu
  cases hr : Form.lexeme.read? (u ++ f.written) with
  | none => rfl
  | some p =>
    obtain ⟨g, z⟩ := p
    rw [← List.append_nil f.written] at hr
    obtain ⟨y, rfl, -⟩ := Form.begins_behind_digits hne hr
    refine absurd ?_ h
    exact ((commonStem_inside_left g.kind).trans List.infix_append_left).trans hu.isInfix

theorem apart_shielded_of_not_commonStem (hgap : ¬ commonStem <:+: gap)
    (htail : ∀ q ∈ tail, ¬ commonStem <:+: q.2) :
    Form.lexeme.Apart gap (shielded m d before tail) := by
  induction tail generalizing gap before with
  | nil => exact silent_nil_iff.2 (formless_of_not_commonStem hgap)
  | cons q more ih =>
    obtain ⟨digits, next⟩ := q
    obtain ⟨hnext, hmore⟩ := List.forall_mem_cons.1 htail
    rw [shielded_cons]
    refine ⟨silent_of_not_commonStem hgap _, reads_numeral _ _, ih ?_ hmore⟩
    intro h
    exact hnext (h.trans (List.drop_suffix _ next).isInfix)

theorem inside_of_mem_tail {q : List Char × List Char} (hq : q ∈ tail) :
    q.2 <:+: gap ++ woven m.token tail := by
  induction tail generalizing gap with
  | nil => simp at hq
  | cons p more ih =>
    obtain ⟨digits, next⟩ := p
    rw [woven_cons, ← List.append_assoc]
    rcases List.mem_cons.1 hq with rfl | hq
    · exact List.infix_append_left.trans (List.suffix_append _ _).isInfix
    · exact (ih hq).trans (List.suffix_append _ _).isInfix

theorem apart_shielded_cut (hname : ¬ commonStem <:+: text) (d : Dialect) :
    Form.lexeme.Apart (m.cut text).head (shielded m d (m.cut text).head (m.cut text).tail) := by
  have htext : (m.cut text).head ++ woven m.token (m.cut text).tail = text :=
    m.lexeme.weave_cut text
  apply apart_shielded_of_not_commonStem
  · intro h
    exact hname (h.trans ⟨[], _, htext⟩)
  · intro q hq h
    exact hname (h.trans (htext ▸ inside_of_mem_tail hq))

theorem unshield_shield_respelled (hname : ¬ commonStem <:+: text)
    (hread : ∀ digits ∈ (m.cut text).lexemes, ∃ n, read digits = .ok n) (d : Dialect) :
    ∃ out, shield m d text = .ok out ∧ unshield m out = .ok (respelled m text) := by
  have hle : ∀ q ∈ (m.cut text).tail, q.1.length ≤ longest := by
    intro q hq
    obtain ⟨n, hn⟩ := hread q.1 (List.mem_map_of_mem hq)
    exact (read_eq_ok_iff.1 hn).1
  obtain ⟨out, hout⟩ : ∃ out, shield m d text = .ok out := ⟨_, shield_eq_ok_iff.2 ⟨hle, rfl⟩⟩
  exact ⟨out, hout, unshield_of_apart hout (apart_shielded_cut hname d)⟩

/-- A text that does not hold what the forms have in common comes back from shielding with every
index in plain digits and nothing else changed. Which forms its tokens had never shows: the restored
style sheet is the same for both dialects. -/
theorem restoreText_shield (hname : ¬ commonStem <:+: text)
    (hread : ∀ digits ∈ (m.cut text).lexemes, ∃ n, read digits = .ok n) (rules : List Rule) :
    ∃ css, ∀ d, ∃ out, shield m d text = .ok out ∧
      unshield m out = .ok (respelled m text) ∧ restoreText m out rules = .ok css := by
  refine ⟨settledText m rules (respelled m text), fun d => ?_⟩
  obtain ⟨out, hout, hback⟩ := unshield_shield_respelled hname hread d
  exact ⟨out, hout, hback, restoreText_eq_ok_iff.2 ⟨_, hback, rfl⟩⟩

/-- A source with an index of a leading zero, one in other digits, forms that will stand side by
side, and the beginnings and ends of names and comments around them. -/
def gluedTokens : List Char :=
  ("__sjx/*!%%styled-jsx-placeholder-07%%%%styled-jsx-placeholder-٣%%%sjx_ph_1__;" ++
    "%%styled-jsx-placeholder-2%%*/").toList

theorem restoreText_shield_gluedTokens :
    ¬ commonStem <:+: gluedTokens ∧
      (∀ digits ∈ (Markers.standard.cut gluedTokens).lexemes, ∃ n, read digits = .ok n) ∧
      shield .standard .block gluedTokens =
        .ok "__sjx/*!__sjx_ph_7____sjx_pct_3__sjx_ph_1__;/*!__sjx_stmt_2__*/*/".toList ∧
      shield .standard .indented gluedTokens =
        .ok "__sjx/*!__sjx_ph_7____sjx_pct_3__sjx_ph_1__;__sjx_ph_2__*/".toList ∧
      ∃ css, ∀ d, ∃ out, shield .standard d gluedTokens = .ok out ∧
        unshield .standard out = .ok (respelled .standard gluedTokens) ∧
          restoreText .standard out Rule.table = .ok css := by
  have hname : ¬ commonStem <:+: gluedTokens := by decide +kernel
  have hdigits : (Markers.standard.cut gluedTokens).lexemes = [['0', '7'], ['٣'], ['2']] := by
    decide +kernel
  have hread : ∀ digits ∈ (Markers.standard.cut gluedTokens).lexemes, ∃ n, read digits = .ok n := by
    rw [hdigits]
    simp only [List.forall_mem_cons, List.not_mem_nil, false_implies, implies_true, and_true]
    exact ⟨⟨7, by decide +kernel⟩, ⟨3, by decide +kernel⟩, ⟨2, by decide +kernel⟩⟩
  exact ⟨hname, hread, by decide +kernel, by decide +kernel,
    restoreText_shield hname hread Rule.table⟩

end Stencil.Adjacency
