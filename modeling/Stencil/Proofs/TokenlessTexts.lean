import Stencil.Proofs.RestoredPlaces
import Stencil.Proofs.ShieldedCut
import Stencil.Proofs.StandardTokens

/-!
# Shielded texts hold no token

A form begins and ends with a character that stands in no token, and holds no percent sign. So a
token of a shielded text would have to stand inside of one of the gaps, in which none was found
before. Damaged markers and markers that share their percent signs with a token stay where they are
and are never completed. What stands behind a form is what stood behind the token, without the
percent sign that the form covers: `tokens_shield`.
-/

namespace Stencil.Shield

open Stencil.Text Stencil.Number Stencil.Token Stencil.Adjacency

variable {d : Dialect} {gap gap' before next s out : List Char} {f : Form}
  {tail : List (List Char × List Char)}

/-! ### Texts without tokens -/

def isFormEdge (c : Char) : Bool :=
  c == '_' || c == '/'

theorem standard_avoids_of_isFormEdge {c : Char} (hc : isFormEdge c = true) :
    Markers.standard.lexeme.Avoids c := by
  refine Markers.standard_avoids (by decide +kernel) hc ?_
  simp only [isFormEdge, Bool.or_eq_true, beq_iff_eq] at hc
  rcases hc with rfl | rfl <;> decide

theorem Form.exists_edges (hf : Form.lexeme.Reads f) :
    ∃ c inside e, f.written = c :: (inside ++ [e]) ∧ isFormEdge c = true ∧ isFormEdge e = true ∧
      '%' ∉ inside := by
  have hsides : ∀ k : Kind, '%' ∉ k.left ∧ '%' ∉ k.right := by
    intro k
    cases k <;> decide
  have hsign : '%' ∉ f.written := Form.not_mem_of_sides hsides (by decide) hf
  obtain ⟨c, left, hleft, hc⟩ : ∃ c left, f.kind.left = c :: left ∧ isFormEdge c = true := by
    cases f.kind <;> exact ⟨_, _, rfl, by decide⟩
  obtain ⟨right, e, hright, he⟩ : ∃ right e, f.kind.right = right ++ [e] ∧ isFormEdge e = true := by
    cases f.kind with
    | plain => exact ⟨['_'], '_', rfl, by decide⟩
    | percent => exact ⟨['_'], '_', rfl, by decide⟩
    | statement => exact ⟨['_', '_', '*'], '/', rfl, by decide⟩
  have hwritten : f.written = c :: (left ++ f.digits ++ right ++ [e]) := by
    rw [Form.written, hleft, hright]
    simp
  refine ⟨c, _, e, hwritten, hc, he, fun hmem => ?_⟩
  rw [hwritten] at hsign
  exact hsign (List.mem_cons_of_mem _ (List.mem_append_left _ hmem))

/-- The tokens around a form are those of the text before it and of the text behind it. -/
theorem lexemes_append_written (hf : Form.lexeme.Reads f) (s t : List Char) :
    Markers.standard.lexeme.lexemes (s ++ (f.written ++ t)) =
      Markers.standard.lexeme.lexemes s ++ Markers.standard.lexeme.lexemes t := by
  obtain ⟨c, inside, e, hwritten, hc, he, hinside⟩ := Form.exists_edges hf
  have hsplit {a : Char} (ha : isFormEdge a = true) (x y : List Char) :=
    Markers.standard.rigid_lexeme.lexemes_append_cons (standard_avoids_of_isFormEdge ha) x y
  calc
    Markers.standard.lexeme.lexemes (s ++ (f.written ++ t)) =
        Markers.standard.lexeme.lexemes (s ++ c :: (inside ++ e :: t)) := by
      rw [hwritten]
      simp
    _ = Markers.standard.lexeme.lexemes s ++ (Markers.standard.lexeme.lexemes inside ++
        Markers.standard.lexeme.lexemes t) := by
      rw [hsplit hc, hsplit he]
    _ = Markers.standard.lexeme.lexemes s ++ Markers.standard.lexeme.lexemes t := by
      rw [Markers.standard_lexemes_of_not_mem hinside, List.nil_append]

theorem lexemes_shielded (h : Markers.standard.lexeme.Apart gap tail) (hgap : gap' <:+ gap) :
    Markers.standard.lexeme.lexemes
      (gap' ++ woven Form.written (shielded .standard d before tail)) = [] := by
  have hfirst : Markers.standard.lexeme.lexemes gap' = [] :=
    Markers.standard.rigid_lexeme.lexemes_of_silent (h.silent.of_suffix hgap)
  induction tail generalizing gap gap' before with
  | nil => rw [shielded_nil, woven_nil, List.append_nil, hfirst]
  | cons q more ih =>
    obtain ⟨digits, next⟩ := q
    obtain ⟨-, -, hnext⟩ := h
    have hsuffix {n : Nat} : next.drop n <:+ next := List.drop_suffix n next
    rw [shielded_cons, woven_cons, lexemes_append_written (reads_numeral _ _), hfirst,
      List.nil_append]
    exact ih hnext hsuffix
      (Markers.standard.rigid_lexeme.lexemes_of_silent (hnext.silent.of_suffix hsuffix))

theorem tokens_of_shield (h : shield .standard d s = .ok out) :
    Markers.standard.tokens out = [] := by
  obtain ⟨-, rfl⟩ := shield_eq_ok_iff.1 h
  have happart := Markers.standard.rigid_lexeme.apart_cut s
  exact List.map_eq_nil_iff.2 (lexemes_shielded happart List.suffix_rfl)

theorem shield_of_tokens_eq_nil (h : Markers.standard.tokens s = []) (d : Dialect) :
    shield .standard d s = .ok s := by
  rw [shield_eq_ok_iff, Markers.cut_of_tokens_eq_nil h]
  simp

/-! ### Percent signs -/

/-- How the text goes on behind the form of a token at a place: `q` is the form with the gap that
follows it. -/
structure GoesOn (p : Place) (q : Form × List Char) : Prop where
  split : ∃ rest, p.after = q.1.kind.covered ++ (q.2 ++ rest) ∧
    (rest = [] ∨ Markers.standard.opensAt rest = true)
  /-- The form covers a percent sign exactly if one follows the token and begins no marker. -/
  percent_iff : q.1.kind = .percent ↔
    ∃ rest, p.after = '%' :: rest ∧ Markers.standard.opensAt p.after = false

theorem kindAt_eq_percent_iff {m : Markers} {p : Place} : kindAt m d p = .percent ↔
    ∃ rest, p.after = '%' :: rest ∧ m.opensAt p.after = false := by
  have hfollows : percentFollows m p.after = true ↔
      ∃ rest, p.after = '%' :: rest ∧ m.opensAt p.after = false := by
    rw [percentFollows, Bool.and_eq_true, startsWith_iff, Bool.not_eq_true']
    simp
  rw [← hfollows]
  unfold kindAt
  split_ifs with hpercent halone <;> simp [hpercent]

theorem goesOn_shielded (d : Dialect) (before : List Char)
    (tail : List (List Char × List Char)) :
    List.Forall₂ GoesOn (placesFrom .standard before tail) (shielded .standard d before tail) := by
  induction tail generalizing before with
  | nil => exact .nil
  | cons q more ih =>
    obtain ⟨digits, gap⟩ := q
    rw [placesFrom_cons, shielded_cons]
    refine .cons ⟨⟨woven Markers.standard.token more, ?_, ?_⟩, kindAt_eq_percent_iff⟩ (ih _)
    · rw [← List.append_assoc, covered_append_drop rfl]
    · by_cases hnil : woven Markers.standard.token more = []
      · exact .inl hnil
      · exact .inr (Markers.opensAt_woven hnil)

/-- A shielded text holds no token, so shielding it again changes nothing, whatever the dialect. It
is made of a form for every place of a token, and behind the form the text goes on as it did behind
the token, without a percent sign that followed the token and began no marker. -/
theorem tokens_shield (h : shield .standard d s = .ok out) :
    Markers.standard.tokens out = [] ∧
      (∃ c, shieldCut .standard d s = .ok c ∧ out = c.weave Form.written ∧
        List.Forall₂ GoesOn (places .standard s) c.tail) ∧
      ∀ d', shield .standard d' out = .ok out := by
  have htokens := tokens_of_shield h
  refine ⟨htokens, ?_, shield_of_tokens_eq_nil htokens⟩
  obtain ⟨hle, rfl⟩ := shield_eq_ok_iff.1 h
  exact ⟨_, shieldCut_eq_ok_iff.2 ⟨hle, rfl⟩, rfl, goesOn_shielded d _ _⟩

/-- A marker without an index, a token that shares its percent signs with the beginning of another
one, and a token with a percent sign of its own in front of the next token. -/
def damagedMarkers : List Char :=
  ("%%styled-jsx-placeholder-%%styled-jsx-placeholder-1%%styled-jsx-placeholder-2%%%;" ++
    "%%styled-jsx-placeholder-3%%%%%styled-jsx-placeholder-4%%%").toList

def shieldedDamagedMarkers : List Char :=
  ("%%styled-jsx-placeholder-__sjx_ph_1__styled-jsx-placeholder-2%%%;" ++
    "__sjx_pct_3____sjx_pct_4__").toList

theorem tokens_shield_damagedMarkers :
    shield .standard .block damagedMarkers = .ok shieldedDamagedMarkers ∧
      Markers.standard.tokens shieldedDamagedMarkers = [] ∧
      (∃ c, shieldCut .standard .block damagedMarkers = .ok c ∧
        shieldedDamagedMarkers = c.weave Form.written ∧
          List.Forall₂ GoesOn (places .standard damagedMarkers) c.tail) ∧
      ∀ d', shield .standard d' shieldedDamagedMarkers = .ok shieldedDamagedMarkers := by
  have h : shield .standard .block damagedMarkers = .ok shieldedDamagedMarkers := by
    decide +kernel
  exact ⟨h, tokens_shield h⟩

end Stencil.Shield
