import Stencil.Proofs.CutSplit
import Stencil.Proofs.ShieldedCut

/-!
# Texts without forms

A percent sign or a space never stands inside of a form, so each of them cuts a text in two that may
be searched for forms one by one. With the standard markers a token holds no underscore, and so no
form begins in a token or goes on into one: what unshielding returns is formless,
`formless_of_unshield`, and to unshield a formless text changes nothing, `unshield_of_formless`.
-/

namespace Stencil.Shield

open Stencil.Text Stencil.Number Stencil.Token

/-- Whether no form stands anywhere in a text. -/
def Formless (s : List Char) : Prop :=
  ∀ f, Form.lexeme.Reads f → ¬ f.written <:+: s

variable {m : Markers} {s s' gap next : List Char} {tail : List (List Char × List Char)}

theorem silent_nil_iff : Form.lexeme.Silent s [] ↔ Formless s := by
  constructor
  · rintro h f hf ⟨a, b, rfl⟩
    have hnone := h (f.written ++ b) (by simp [Form.written, f.kind.left_ne_nil])
      ⟨a, (List.append_assoc a _ b).symm⟩
    have hread := hf (b ++ [])
    rw [Form.lexeme_written, ← List.append_assoc] at hread
    exact absurd (hread.symm.trans hnone) (by simp)
  · intro h u _ hu
    cases hr : Form.lexeme.read? (u ++ []) with
    | none => rfl
    | some p =>
      obtain ⟨f, z⟩ := p
      have he := Form.lexeme.read?_eq hr
      rw [List.append_nil] at he
      refine absurd ?_ (h f (Form.rigid_lexeme.reads hr))
      exact (he ▸ List.infix_append_left : f.written <:+: u).trans hu.isInfix

theorem Formless.of_inside (h : Formless s) (hs : s' <:+: s) : Formless s' :=
  fun f hf hw => h f hf (hw.trans hs)

/-- The characters that no form holds. -/
def isForeign (c : Char) : Bool :=
  c == '%' || c == ' '

theorem not_mem_written {f : Form} (hf : Form.lexeme.Reads f) {c : Char}
    (hc : isForeign c = true) : c ∉ f.written := by
  have hsides : ∀ k : Kind, c ∉ k.left ∧ c ∉ k.right := by
    intro k
    simp only [isForeign, Bool.or_eq_true, beq_iff_eq] at hc
    rcases hc with rfl | rfl <;> cases k <;> decide
  have hdec : isDecimal c = false := by
    simp only [isForeign, Bool.or_eq_true, beq_iff_eq] at hc
    rcases hc with rfl | rfl <;> decide
  exact Form.not_mem_of_sides hsides hdec hf

/-- A text without the character `c` does not stand across a `c`. -/
theorem infix_append_cons_iff {w a b : List Char} {c : Char} (hc : c ∉ w) :
    w <:+: a ++ c :: b ↔ w <:+: a ∨ w <:+: b := by
  have hfront {t : List Char} (ht : c ∉ t) (h : t <+: c :: b) : t = [] := by
    cases t with
    | nil => rfl
    | cons d t =>
      obtain ⟨r, hr⟩ := h
      obtain ⟨rfl, -⟩ := List.cons.inj hr
      exact absurd List.mem_cons_self ht
  constructor
  · intro h
    rcases List.infix_append_iff.1 h with h | h | ⟨l, r, rfl, hl, hr⟩
    · exact .inl h
    · rcases List.infix_cons_iff.1 h with h | h
      · rw [hfront hc h]
        exact .inl List.nil_infix
      · exact .inr h
    · rw [hfront (fun hm => hc (List.mem_append_right l hm)) hr, List.append_nil]
      exact .inl hl.isInfix
  · rintro (h | h)
    · exact h.trans List.infix_append_left
    · exact h.trans ((List.suffix_cons c b).trans (List.suffix_append a _)).isInfix

theorem formless_append_cons_iff_of_avoids {a b : List Char} {c : Char}
    (hc : Form.lexeme.Avoids c) : Formless (a ++ c :: b) ↔ Formless a ∧ Formless b := by
  constructor
  · intro h
    exact ⟨h.of_inside List.infix_append_left,
      h.of_inside ((List.suffix_cons c b).trans (List.suffix_append a _)).isInfix⟩
  · rintro ⟨ha, hb⟩ f hf hw
    rcases (infix_append_cons_iff (hc f hf)).1 hw with hw | hw
    · exact ha f hf hw
    · exact hb f hf hw

theorem formless_append_cons_iff {a b : List Char} {c : Char} (hc : isForeign c = true) :
    Formless (a ++ c :: b) ↔ Formless a ∧ Formless b :=
  formless_append_cons_iff_of_avoids fun _ hf => not_mem_written hf hc

theorem formless_of_not_mem (h : '_' ∉ s) : Formless s := by
  intro f _ hw
  have hmem : '_' ∈ f.written := by
    cases hk : f.kind <;> simp [Form.written, hk, Kind.right]
  exact h (hw.subset hmem)

theorem formless_cons_iff {c : Char} (hc : isForeign c = true) :
    Formless (c :: s) ↔ Formless s := by
  have hnil : Formless [] := formless_of_not_mem (by simp)
  rw [← List.nil_append (c :: s), formless_append_cons_iff hc]
  exact and_iff_right hnil

theorem formless_covered_iff (k : Kind) : Formless (k.covered ++ s) ↔ Formless s := by
  cases k with
  | plain => rfl
  | percent => exact formless_cons_iff (by decide)
  | statement => rfl

theorem formless_token_iff {digits : List Char} (h : Markers.standard.lexeme.Reads digits) :
    Formless (gap ++ (Markers.standard.token digits ++ next)) ↔ Formless gap ∧ Formless next := by
  have hsign : isForeign '%' = true := by decide
  obtain ⟨inside, -, hunder, htoken⟩ := Markers.standard_token_eq h
  have hinside : Formless ('s' :: inside) := formless_of_not_mem (by simp [hunder])
  have hsplit : gap ++ (Markers.standard.token digits ++ next) =
      gap ++ '%' :: '%' :: ('s' :: inside ++ '%' :: '%' :: next) := by
    rw [htoken]
    simp
  rw [hsplit, formless_append_cons_iff hsign, formless_cons_iff hsign,
    formless_append_cons_iff hsign, formless_cons_iff hsign]
  exact and_congr_right fun _ => and_iff_right hinside

/-- A text with tokens is formless exactly if all its gaps are. -/
theorem formless_woven_iff (h : ∀ q ∈ tail, Markers.standard.lexeme.Reads q.1) :
    Formless (gap ++ woven Markers.standard.token tail) ↔
      Formless gap ∧ ∀ q ∈ tail, Formless q.2 := by
  induction tail generalizing gap with
  | nil => simp
  | cons q more ih =>
    obtain ⟨digits, next⟩ := q
    obtain ⟨hdigits, hmore⟩ := List.forall_mem_cons.1 h
    rw [woven_cons, formless_token_iff hdigits, ih hmore, List.forall_mem_cons]

theorem formless_of_apart {forms : List (Form × List Char)} (h : Form.lexeme.Apart gap forms) :
    Formless gap ∧ ∀ q ∈ forms, Formless q.2 := by
  induction forms generalizing gap with
  | nil => exact ⟨silent_nil_iff.1 h, by simp⟩
  | cons q more ih =>
    obtain ⟨f, next⟩ := q
    obtain ⟨hgap, -, hnext⟩ := h
    obtain ⟨hformless, hmore⟩ := ih hnext
    exact ⟨silent_nil_iff.1 (Form.rigid_lexeme.silent_nil_of_silent hgap),
      List.forall_mem_cons.2 ⟨hformless, hmore⟩⟩

/-- Where forms stand for tokens, what they cover belongs to the gaps behind these tokens. -/
theorem woven_standsFor_eq (m : Markers) (forms : List (Form × List Char)) :
    woven (Form.standsFor m) forms = woven m.token
      (forms.map fun q => (numeral (value q.1.digits), q.1.kind.covered ++ q.2)) := by
  induction forms with
  | nil => rfl
  | cons q more ih =>
    obtain ⟨f, next⟩ := q
    rw [List.map_cons, woven_cons, woven_cons, ih, Form.standsFor, Markers.render]
    simp only [List.append_assoc]

/-- Unshielding leaves no form. -/
theorem formless_of_unshield (h : unshield .standard s = .ok s') : Formless s' := by
  obtain ⟨-, rfl⟩ := unshield_eq_ok_iff.1 h
  obtain ⟨hhead, hgaps⟩ := formless_of_apart (Form.rigid_lexeme.apart_cut s)
  rw [Cut.weave_eq, woven_standsFor_eq, formless_woven_iff]
  · refine ⟨hhead, fun q hq => ?_⟩
    obtain ⟨q', hq', rfl⟩ := List.mem_map.1 hq
    exact (formless_covered_iff _).2 (hgaps q' hq')
  · intro q hq
    obtain ⟨q', -, rfl⟩ := List.mem_map.1 hq
    exact Markers.standard.reads_iff.2 ⟨numeral_ne_nil _, isDecimal_of_mem_numeral⟩

theorem unshield_of_formless (m : Markers) (h : Formless s) : unshield m s = .ok s := by
  have hcut : Form.lexeme.cut s = ⟨s, []⟩ := by
    have := Lexeme.cut_append (silent_nil_iff.2 h)
    simpa using this
  rw [unshield_eq_ok_iff, hcut]
  simp [Cut.weave]

end Stencil.Shield
