import Stencil.Proofs.BlankChanges
import Stencil.Proofs.RestoredGaps

/-!
# The places of a restored style sheet

The tokens of a restored style sheet are those of the text before, one by one, so their places go in
pairs. In each pair the two texts before the token are alike, and what stands behind its gap was
changed in style blanks alone. What holds of every such pair holds of all tokens:
`forall₂_places_settled`.
-/

namespace Stencil.Adjacency

open Stencil.Text Stencil.Token

deriving instance DecidableEq for Place

def placesFrom (m : Markers) (before : List Char) (tail : List (List Char × List Char)) :
    List Place :=
  visit m.token (fun p _ _ => p) before tail

def places (m : Markers) (s : List Char) : List Place :=
  placesFrom m (m.cut s).head (m.cut s).tail

variable {m : Markers} {p : Place} {rules : List Rule} {b b' gap : List Char}
  {tail : List (List Char × List Char)}

theorem placesFrom_cons {digits : List Char} {more : List (List Char × List Char)} :
    placesFrom m b ((digits, gap) :: more) =
      ⟨b, gap ++ woven m.token more⟩ :: placesFrom m (b ++ m.token digits ++ gap) more := rfl

theorem behind_woven {tail' : List (List Char × List Char)}
    (hdigits : tail.map Prod.fst = tail'.map Prod.fst)
    (halike : Alike (woven Markers.standard.token tail) (woven Markers.standard.token tail')) :
    Behind .standard (woven Markers.standard.token tail) (woven Markers.standard.token tail') where
  alike := halike
  head?_eq := by
    cases tail with
    | nil => rw [List.map_eq_nil_iff.1 hdigits.symm]
    | cons q more =>
      cases tail' with
      | nil => simp at hdigits
      | cons q' more' =>
        obtain ⟨digits, gap⟩ := q
        obtain ⟨digits', gap'⟩ := q'
        rw [woven_cons, woven_cons]
        simp [Markers.token, Markers.standard_opening]
  sign := by
    intro c hc
    cases tail with
    | nil => simp at hc
    | cons q more =>
      obtain ⟨digits, gap⟩ := q
      rw [woven_cons] at hc
      simpa [Markers.token, Markers.standard_opening, eq_comm] using hc
  opened := Markers.opensAt_woven
  opensAt_eq gap := by
    have hfront : Markers.standard.lexeme.front tail = Markers.standard.lexeme.front tail' := by
      cases tail <;> cases tail' <;> simp_all [Lexeme.front]
    rw [Markers.opensAt_woven_iff, Markers.opensAt_woven_iff, hfront]

theorem behind_settled (b : List Char) : Behind .standard (woven Markers.standard.token tail)
    (woven Markers.standard.token (settled .standard rules b tail)) :=
  behind_woven map_fst_settled.symm (adjustedTail_settled b).filter_eq.symm

theorem alike_settled (hb : Alike b b') (digits : List Char)
    (hgap : p = ⟨b, gap ++ woven Markers.standard.token tail⟩) :
    Alike (b ++ Markers.standard.token digits ++ gap)
      (b' ++ Markers.standard.token digits ++ (chosen .standard rules p).apply gap) :=
  (hb.append rfl).append ((justified_chosen _ rules p).adjusted (by rw [hgap])).filter_eq.symm

/-- What one step relates, a run relates all along. -/
theorem forall₂_places_settled {R : Place → Place → Prop}
    (hR : ∀ {b b' gap rest rest' : List Char}, Alike b b' → Behind .standard rest rest' →
      R ⟨b, gap ++ rest⟩
        ⟨b', (chosen .standard rules ⟨b, gap ++ rest⟩).apply gap ++ rest'⟩)
    (hb : Alike b b') :
    List.Forall₂ R (placesFrom .standard b tail)
      (placesFrom .standard b' (settled .standard rules b tail)) := by
  -- The texts before a token differ more and more, but in style blanks alone.
  induction tail generalizing b b' with
  | nil => exact .nil
  | cons q more ih =>
    obtain ⟨digits, gap⟩ := q
    rw [settled_cons, placesFrom_cons, placesFrom_cons]
    exact .cons (hR hb (behind_settled _)) (ih (alike_settled hb _ rfl))

theorem forall_mem_places_settled {P : Place → Prop}
    (hP : ∀ {b b' gap rest rest' : List Char}, Alike b b' → Behind .standard rest rest' →
      P ⟨b', (chosen .standard rules ⟨b, gap ++ rest⟩).apply gap ++ rest'⟩)
    (hb : Alike b b') :
    ∀ p ∈ placesFrom .standard b' (settled .standard rules b tail), P p := by
  have hforall {l l' : List Place} (h : List.Forall₂ (fun _ p => P p) l l') : ∀ p ∈ l', P p := by
    induction h with
    | nil => simp
    | cons hp _ ih => exact List.forall_mem_cons.2 ⟨hp, ih⟩
  exact hforall (forall₂_places_settled (fun hb h => hP hb h) hb)

theorem places_settledText (rules : List Rule) (s : List Char) :
    places .standard (settledText .standard rules s) =
      placesFrom .standard (Markers.standard.cut s).head
        (settled .standard rules (Markers.standard.cut s).head (Markers.standard.cut s).tail) := by
  rw [places, cut_settledText Markers.standard_head?_ne_space]

end Stencil.Adjacency
