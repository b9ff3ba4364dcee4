import Stencil.Proofs.ShieldRoundTrip
import Stencil.Proofs.StandardTokens
import Stencil.Proofs.UseLines

/-!
# What rewriting use rules leaves alone

Quotes, semicolons and line feeds stand in no token and in no reserved name. The stretches between
them that are changed when a use rule becomes an import hold neither a percent sign nor an
underscore, before and after. So a rewritten text has the tokens, the reserved names and the
unfinished names that it had before.
-/

namespace Stencil.Source

open Stencil.Text Stencil.Token Stencil.Shield

def isSeparator (c : Char) : Bool :=
  c == '\n' || c == ';' || c == '"' || c == '\''

/-- Whether no token and no reserved name can begin in a text. -/
def Inert (s : List Char) : Prop :=
  '%' ∉ s ∧ '_' ∉ s

instance (s : List Char) : Decidable (Inert s) :=
  inferInstanceAs (Decidable (_ ∧ _))

inductive SameStretches : List Char → List Char → Prop
  | refl (s : List Char) : SameStretches s s
  | inert {s s' : List Char} (h : Inert s) (h' : Inert s') : SameStretches s s'
  | append {a a' b b' : List Char} {c : Char} (hc : isSeparator c = true)
      (ha : SameStretches a a') (hb : SameStretches b b') :
      SameStretches (a ++ c :: b) (a' ++ c :: b')

/-- Whether no gap in front of a token ends in an unfinished name. -/
def NamesFinished (m : Markers) (s : List Char) : Prop :=
  ∀ gap ∈ gapsBefore (m.cut s).head (m.cut s).tail, ¬ Unfinished gap

variable {s s' t a b gap : List Char} {c : Char}

/-! ### Separators -/

theorem not_isDecimal_of_isSeparator (hc : isSeparator c = true) : isDecimal c = false := by
  simp only [isSeparator, Bool.or_eq_true, beq_iff_eq] at hc
  rcases hc with ((rfl | rfl) | rfl) | rfl <;> decide

theorem standard_avoids_of_isSeparator (hc : isSeparator c = true) :
    Markers.standard.lexeme.Avoids c :=
  Markers.standard_avoids (by decide +kernel) hc (not_isDecimal_of_isSeparator hc)

theorem not_mem_name (hc : isSeparator c = true) (k : Kind) {digits under : List Char}
    (hdec : ∀ d ∈ digits, isDecimal d = true) (hunder : ∀ d ∈ under, d = '_') :
    c ∉ k.stem ++ (digits ++ under) := by
  have hstem : k.stem.any isSeparator = false := by cases k <;> decide
  rw [List.mem_append, List.mem_append]
  rintro (hmem | hmem | hmem)
  · exact List.any_eq_false.1 hstem c hmem hc
  · have := hdec c hmem
    simp [not_isDecimal_of_isSeparator hc] at this
  · obtain rfl := hunder c hmem
    exact absurd hc (by decide)

theorem suffix_append_cons_iff {w : List Char} (hc : c ∉ w) : w <:+ a ++ c :: b ↔ w <:+ b := by
  constructor
  · intro h
    rcases List.suffix_or_suffix_of_suffix h (List.suffix_append a (c :: b)) with h | h
    · rcases List.suffix_cons_iff.1 h with rfl | h
      · simp at hc
      · exact h
    · exact absurd (h.subset List.mem_cons_self) hc
  · intro h
    exact h.trans ((List.suffix_cons c b).trans (List.suffix_append a _))

theorem unfinished_append_cons_iff (hc : isSeparator c = true) :
    Unfinished (a ++ c :: b) ↔ Unfinished b := by
  have hname {k : Kind} {digits under : List Char} (hdec : ∀ d ∈ digits, isDecimal d = true)
      (hunder : under = [] ∨ under = ['_']) : c ∉ k.stem ++ (digits ++ under) :=
    not_mem_name hc k hdec (by rcases hunder with rfl | rfl <;> simp)
  constructor
  · rintro ⟨k, digits, under, hk, hne, hdec, hunder, h⟩
    exact ⟨k, digits, under, hk, hne, hdec, hunder,
      (suffix_append_cons_iff (hname hdec hunder)).1 h⟩
  · rintro ⟨k, digits, under, hk, hne, hdec, hunder, h⟩
    exact ⟨k, digits, under, hk, hne, hdec, hunder,
      (suffix_append_cons_iff (hname hdec hunder)).2 h⟩

theorem reserved?_append_cons_iff (hc : isSeparator c = true) :
    reserved? (a ++ c :: b) = none ↔ reserved? a = none ∧ reserved? b = none := by
  constructor
  · intro h
    exact ⟨reserved?_of_inside h List.infix_append_left,
      reserved?_of_inside h ((List.suffix_cons c b).trans (List.suffix_append a _)).isInfix⟩
  · rintro ⟨ha, hb⟩
    by_contra h
    obtain ⟨x, k, digits, y, hne, hdec, he⟩ := reserved?_ne_none_iff.1 h
    have hname : reserved? (k.stem ++ (digits ++ ['_', '_'])) ≠ none :=
      reserved?_append_stem k [] [] hne hdec
    have hinside : k.stem ++ (digits ++ ['_', '_']) <:+: a ++ c :: b := by
      rw [he]
      exact ⟨x, y, by simp⟩
    rcases (infix_append_cons_iff (not_mem_name hc k hdec (by simp))).1 hinside with h | h
    · exact hname (reserved?_of_inside ha h)
    · exact hname (reserved?_of_inside hb h)

theorem gapsBefore_glue (hc : isSeparator c = true) (e : Cut (List Char))
    {tail : List (List Char × List Char)} :
    (∀ g ∈ gapsBefore ((e.consChar c).glue gap tail).head ((e.consChar c).glue gap tail).tail,
        ¬ Unfinished g) ↔
      (∀ g ∈ gapsBefore gap tail, ¬ Unfinished g) ∧
        ∀ g ∈ gapsBefore e.head e.tail, ¬ Unfinished g := by
  induction tail generalizing gap with
  | nil =>
    cases e with
    | mk head tail =>
      cases tail with
      | nil => simp [Cut.glue, Cut.consChar, gapsBefore]
      | cons q more =>
        simp [Cut.glue, Cut.consChar, gapsBefore, unfinished_append_cons_iff hc]
  | cons q more ih =>
    obtain ⟨digits, next⟩ := q
    rw [Cut.glue, Cut.consLexeme, gapsBefore, gapsBefore, List.forall_mem_cons,
      List.forall_mem_cons, ih, and_assoc]

theorem namesFinished_append_cons_iff (hc : isSeparator c = true) :
    NamesFinished .standard (s ++ c :: t) ↔
      NamesFinished .standard s ∧ NamesFinished .standard t := by
  have hcut := Markers.standard.rigid_lexeme.cut_append_cons (standard_avoids_of_isSeparator hc) s t
  rw [NamesFinished, Markers.cut, hcut, Cut.append, gapsBefore_glue hc]
  rfl

/-! ### Inert texts -/

theorem lexemes_of_inert (h : Inert s) : Markers.standard.lexeme.lexemes s = [] :=
  Markers.standard_lexemes_of_not_mem h.1

theorem namesFinished_of_inert (h : Inert s) : NamesFinished .standard s := by
  have htail : (Markers.standard.cut s).tail = [] := List.map_eq_nil_iff.1 (lexemes_of_inert h)
  simp [NamesFinished, htail, gapsBefore]

theorem reserved?_of_inert (h : Inert s) : reserved? s = none := by
  by_contra hne
  obtain ⟨a, k, digits, b, -, -, rfl⟩ := reserved?_ne_none_iff.1 hne
  exact h.2 (by simp)

/-! ### Texts with the same stretches -/

namespace SameStretches

theorem lexemes_eq (h : SameStretches s s') :
    Markers.standard.lexeme.lexemes s = Markers.standard.lexeme.lexemes s' := by
  induction h with
  | refl => rfl
  | inert h h' => rw [lexemes_of_inert h, lexemes_of_inert h']
  | append hc _ _ iha ihb =>
    have havoids := standard_avoids_of_isSeparator hc
    rw [Markers.standard.rigid_lexeme.lexemes_append_cons havoids,
      Markers.standard.rigid_lexeme.lexemes_append_cons havoids, iha, ihb]

theorem reserved?_iff (h : SameStretches s s') : reserved? s = none ↔ reserved? s' = none := by
  induction h with
  | refl => rfl
  | inert h h' => rw [reserved?_of_inert h, reserved?_of_inert h']
  | append hc _ _ iha ihb =>
    rw [reserved?_append_cons_iff hc, reserved?_append_cons_iff hc, iha, ihb]

theorem namesFinished_iff (h : SameStretches s s') :
    NamesFinished .standard s ↔ NamesFinished .standard s' := by
  induction h with
  | refl => rfl
  | inert h h' => exact iff_of_true (namesFinished_of_inert h) (namesFinished_of_inert h')
  | append hc _ _ iha ihb =>
    rw [namesFinished_append_cons_iff hc, namesFinished_append_cons_iff hc, iha, ihb]

end SameStretches

/-! ### Rewriting -/

theorem inert_of_forall {p : Char → Bool} (hsign : p '%' = false) (hunder : p '_' = false)
    (h : ∀ c ∈ s, p c = true) : Inert s :=
  ⟨fun hmem => by simp [h _ hmem] at hsign, fun hmem => by simp [h _ hmem] at hunder⟩

theorem Inert.append (h : Inert s) (h' : Inert s') : Inert (s ++ s') := by
  simp [Inert, h.1, h.2, h'.1, h'.2]

theorem sameStretches_asImport {line : List Char} {u : PlainUse}
    (h : PlainUse.read? line = some u) : SameStretches line u.asImport := by
  obtain ⟨gap, q, inner, star, hindent, hgap, hq, hurl, hstar, hrest, hline⟩ :=
    PlainUse.read?_eq_some h
  have hquote : isSeparator q = true := by rcases hq with rfl | rfl <;> decide
  have hindent : Inert u.indent := inert_of_forall (by decide) (by decide) hindent
  have hgap : Inert gap := inert_of_forall (by decide) (by decide) hgap
  have hstar : Inert star := inert_of_forall (by decide) (by decide) hstar
  have hfront : SameStretches (u.indent ++ useWord ++ gap) (u.indent ++ importWord) :=
    .inert ((hindent.append (by decide)).append hgap) (hindent.append (by decide))
  have hbehind : SameStretches (star ++ u.rest) u.rest := by
    rcases hrest with hrest | ⟨more, hrest⟩
    · rw [hrest, List.append_nil]
      exact .inert hstar (by decide)
    · have hgone : SameStretches star [] := .inert hstar (by decide)
      rw [hrest]
      exact .append (by decide) hgone (.refl more)
  have hpieces := hfront.append hquote ((SameStretches.refl inner).append hquote hbehind)
  rw [hline, PlainUse.asImport, hurl]
  simpa using hpieces

theorem sameStretches_rewriteLine {line line' : List Char} (h : rewriteLine line = some line') :
    SameStretches line line' := by
  rcases rewriteLine_eq_some h with ⟨rfl, -⟩ | ⟨u, hu, rfl⟩
  · exact .refl _
  · exact sameStretches_asImport hu

theorem sameStretches_joinNewlines {lines lines' : List (List Char)}
    (h : List.Forall₂ SameStretches lines lines') :
    SameStretches (joinNewlines lines) (joinNewlines lines') := by
  induction h with
  | nil => exact .refl _
  | cons hline hlines ih =>
    cases hlines with
    | nil => simpa [joinNewlines] using hline
    | cons _ _ =>
      rw [joinNewlines_cons (List.cons_ne_nil _ _), joinNewlines_cons (List.cons_ne_nil _ _)]
      exact .append (by decide) hline ih

/-- Rewriting use rules leaves every stretch alone that is not inert. -/
theorem sameStretches_rewriteUse (h : rewriteUse s = .ok s') : SameStretches s s' := by
  obtain ⟨lines, hlines, rfl⟩ := map_eq_ok_iff.1 h
  have hall := (rewriteLines_eq_ok_iff.1 hlines).imp fun _ _ => sameStretches_rewriteLine
  have hsame := sameStretches_joinNewlines hall
  rwa [joinNewlines_splitNewlines] at hsame

end Stencil.Source
