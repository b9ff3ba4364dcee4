import Stencil.Proofs.CutSplit
import Stencil.Token.Place

/-!
# Visiting a text in two parts

Every lexeme is seen at its place, and what is seen decides what is written for it and what becomes
of the gap behind it. Where nothing that is seen reaches across a certain character, a text may be
visited in two parts, the first of which ends with that character: `Rigid.toldFrom_append_cons`.
-/

namespace Stencil.Token

open Stencil.Text

variable {α β γ : Type}

namespace Cut

theorem weave_glue (f : α → List Char) (e : Cut α) (gap : List Char)
    (tail : List (α × List Char)) :
    (glue e gap tail).weave f = gap ++ woven f tail ++ e.weave f := by
  induction tail generalizing gap with
  | nil => simp [glue, weave_eq]
  | cons q more ih =>
    obtain ⟨a, next⟩ := q
    have hmore := ih next
    rw [weave_eq] at hmore
    rw [glue, weave_eq, consLexeme, woven_cons, woven_cons, hmore]
    simp only [List.append_assoc]

theorem weave_append (f : α → List Char) (d e : Cut α) :
    (d.append e).weave f = d.weave f ++ e.weave f :=
  weave_glue f e d.head d.tail

end Cut

/-- Whether what is seen at a place depends on nothing beyond a `c`, on either side. -/
structure StopsAt (c : Char) (F : Place → γ) : Prop where
  before : ∀ s b after, F ⟨s ++ c :: b, after⟩ = F ⟨b, after⟩
  behind : ∀ b x t, F ⟨b, x ++ c :: t⟩ = F ⟨b, x ++ [c]⟩

/-- What is written for the lexemes behind `before`, each with its gap as it is edited. -/
def told (written : α → List Char) (F : Place → γ) (value : γ → α → β)
    (edit : γ → List Char → List Char) (before : List Char) (tail : List (α × List Char)) :
    List (β × List Char) :=
  visit written (fun p a gap => (value (F p) a, edit (F p) gap)) before tail

/-- The text that is written for a cut behind `before`. Its first gap is edited by `first`. -/
def toldFrom (written : α → List Char) (F : Place → γ) (value : γ → α → β)
    (edit : γ → List Char → List Char) (f : β → List Char) (before : List Char)
    (first : List Char → List Char) (d : Cut α) : List Char :=
  first d.head ++ woven f (told written F value edit (before ++ d.head) d.tail)

section Told

variable {c : Char} {written : α → List Char} {F : Place → γ} {value : γ → α → β}
  {edit : γ → List Char → List Char} {f : β → List Char} {a : α} {before gap : List Char}
  {first : List Char → List Char} {tail more : List (α × List Char)}

theorem told_cons : told written F value edit before ((a, gap) :: more) =
    (value (F ⟨before, gap ++ woven written more⟩) a,
      edit (F ⟨before, gap ++ woven written more⟩) gap) ::
        told written F value edit (before ++ written a ++ gap) more := rfl

theorem toldFrom_cons (d : Cut α) :
    toldFrom written F value edit f before first ⟨gap, (d.consLexeme a).tail⟩ =
      first gap ++ (f (value (F ⟨before ++ gap, d.weave written⟩) a) ++
        toldFrom written F value edit f (before ++ gap ++ written a)
          (edit (F ⟨before ++ gap, d.weave written⟩)) d) := by
  rw [toldFrom, Cut.consLexeme, told_cons, woven_cons, toldFrom, Cut.weave_eq]

theorem told_append_before (hF : StopsAt c F) (s : List Char) :
    told written F value edit (s ++ c :: before) tail =
      told written F value edit before tail := by
  induction tail generalizing before with
  | nil => rfl
  | cons q more ih =>
    obtain ⟨a, gap⟩ := q
    have hbefore : s ++ c :: before ++ written a ++ gap =
        s ++ c :: (before ++ written a ++ gap) := by simp
    rw [told_cons, told_cons, hF.before, hbefore, ih]

variable (hF : StopsAt c F) (hedit : ∀ g x t, edit g (x ++ c :: t) = edit g (x ++ [c]) ++ t)
include hF hedit

/-- What is written up to a `c` does not depend on what stands behind it, and conversely. -/
theorem toldFrom_glue (e : Cut α) (hfirst : ∀ x t, first (x ++ c :: t) = first (x ++ [c]) ++ t) :
    toldFrom written F value edit f before first ((e.consChar c).glue gap tail) =
      toldFrom written F value edit f before first
          ((Cut.consChar c ⟨[], []⟩).glue gap tail) ++
        toldFrom written F value edit f [] id e := by
  induction tail generalizing before gap first with
  | nil =>
    have hbefore : before ++ (gap ++ c :: e.head) = before ++ gap ++ c :: e.head := by simp
    have hnone : told written F value edit (before ++ (gap ++ [c])) [] = [] := rfl
    simp only [Cut.glue, Cut.consChar, toldFrom, hfirst _ e.head, hbefore, told_append_before hF,
      hnone]
    simp
  | cons q more ih =>
    obtain ⟨a, next⟩ := q
    have hplace (e : Cut α) : F ⟨before ++ gap, ((e.consChar c).glue next more).weave written⟩ =
        F ⟨before ++ gap, next ++ woven written more ++ [c]⟩ := by
      rw [Cut.weave_glue, Cut.weave_consChar, hF.behind]
    rw [Cut.glue, Cut.glue, toldFrom_cons, toldFrom_cons, hplace, hplace, ih (hedit _)]
    simp only [List.append_assoc]

variable {L : Lexeme α} (hL : L.Rigid) (hc : L.Avoids c)
include hL hc

theorem Lexeme.Rigid.toldFrom_append_cons (s t : List Char) :
    toldFrom written F value edit f [] id (L.cut (s ++ c :: t)) =
      toldFrom written F value edit f [] id (L.cut (s ++ [c])) ++
        toldFrom written F value edit f [] id (L.cut t) := by
  rw [hL.cut_append_cons hc s t, hL.cut_append_cons hc s [], L.cut_nil, Cut.append, Cut.append]
  exact toldFrom_glue hF hedit (L.cut t) fun x t => by simp

end Told

end Stencil.Token
