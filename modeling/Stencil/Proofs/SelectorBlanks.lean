import Stencil.Proofs.BlankRuns
import Stencil.Proofs.RestoredPlaces

/-!
# Blanks in selectors

Between a token of a selector and the name behind it blanks are a combinator, and they stay. Some
units are names of elements too, and the rule for units comes first. It takes a closing parenthesis
for the end of a value, and so it removes the blanks in front of such a name where a parenthesis of
the selector closes next: `restoreText_selectorBlanks`.
-/

namespace Stencil.Adjacency

open Stencil.Text Stencil.Token Stencil.Shield

/-- Whether a token stands in a selector: its statement is no at-rule, and a block opens before the
statement ends. -/
structure InSelector (p : Place) : Prop where
  head : startsWith ['@'] p.head = false
  opens : opensBlock p.after = true

/-- Whether all the letters in front are a unit and no part of a longer name, and a parenthesis
closes behind them before any other bracket. -/
def closesUnit (s : List Char) : Bool :=
  let rest := s.dropWhile isLetter
  isUnit (s.takeWhile isLetter) && !continuesName rest && meets isBracket ')' rest

/-- What becomes of the blanks between a token in a selector and a letter: they are removed in front
of a unit that a parenthesis closes, and else they stay. -/
def CombinatorKept (p p' : Place) : Prop :=
  InSelector p → ∀ blanks c rest, Blanks blanks → isLetter c = true →
    p.after = blanks ++ c :: rest →
      Rule.space p'.after = if closesUnit (c :: rest) then [] else blanks

variable {b b' gap rest rest' css out : List Char}

theorem opensBlock_append {a : List Char} (ha : ∀ c ∈ a, isBoundary c = false) (s : List Char) :
    opensBlock (a ++ s) = opensBlock s := by
  have hnone : a.find? isBoundary = none := by
    rw [List.find?_eq_none]
    intro c hc
    simp [ha c hc]
  rw [opensBlock, opensBlock, meets, meets, List.find?_append, hnone, Option.none_or]

theorem not_isBoundary_of_isLetter {c : Char} (h : isLetter c = true) : isBoundary c = false := by
  cases hc : isBoundary c with
  | false => rfl
  | true =>
    simp only [isBoundary, Bool.or_eq_true, beq_iff_eq] at hc
    rcases hc with (rfl | rfl) | rfl <;> exact absurd h (by decide)

/-- In front of a block the rest of a value can only end with a parenthesis. -/
theorem startsUnit_eq_closesUnit {s : List Char} (h : opensBlock s = true) :
    startsUnit s = closesUnit s := by
  have hrest : opensBlock (s.dropWhile isLetter) = true := by
    rw [← h]
    conv => rhs; rw [← List.takeWhile_append_dropWhile (p := isLetter) (l := s)]
    exact (opensBlock_append
      (fun c hc => not_isBoundary_of_isLetter (holds_of_mem_takeWhile hc)) _).symm
  simp [startsUnit, closesUnit, endsValue, hrest]

theorem combinatorKept_settled (h : Behind .standard rest rest') :
    CombinatorKept ⟨b, gap ++ rest⟩
      ⟨b', (chosen .standard Rule.table ⟨b, gap ++ rest⟩).apply gap ++ rest'⟩ := by
  intro hselector blanks c x hblanks hletter hafter
  replace hafter : gap ++ rest = blanks ++ c :: x := hafter
  have hc := not_isStyleBlank_of_isLetter hletter
  have hsign := ne_percent_of_isLetter hletter
  have hbrace : c ≠ '{' := by
    rintro rfl
    exact absurd hletter (by decide)
  have hopens : opensBlock (c :: x) = true := by
    rw [← opensBlock_append fun d hd => not_isBoundary_of_isStyleBlank d (hblanks.blank d hd),
      ← hafter]
    exact hselector.opens
  have hchosen : chosen .standard Rule.table ⟨b, gap ++ rest⟩ =
      if closesUnit (c :: x) then .join else .keep := by
    rw [hafter, hblanks.chosen_table_append hc, startsUnit_eq_closesUnit hopens]
    simp [hsign, hbrace]
  rw [hchosen]
  cases closesUnit (c :: x) with
  | true =>
    -- The letter stands in the gap, and nothing is left in front of it.
    have hbeyond := h.beyond_append gap
    rw [hafter, hblanks.beyond_append hc] at hbeyond
    obtain ⟨g, hg⟩ := h.cons_of_ne_percent hsign hbeyond.symm
    simp [hg, Rule.space, hc]
  | false =>
    show Rule.space (gap ++ rest') = blanks
    rw [← h.space_eq, hafter, hblanks.space_append hc]

/-- In a restored style sheet the blanks between a token of a selector and a letter are the same as
before, unless the letters are a unit that a parenthesis of the selector closes. -/
theorem restoreText_selectorBlanks (h : restoreText .standard css = .ok out) :
    ∃ s, unshield .standard css = .ok s ∧
      List.Forall₂ CombinatorKept (places .standard s) (places .standard out) := by
  obtain ⟨s, hs, rfl⟩ := restoreText_eq_ok_iff.1 h
  refine ⟨s, hs, ?_⟩
  rw [places_settledText, places]
  exact forall₂_places_settled (fun _ h => combinatorKept_settled h) rfl

/-- A list of selectors with two tokens in front of the name of an element. A parenthesis closes
behind the second one. -/
def selectorSheet : List Char :=
  "p __sjx_ph_1__ em, a:not(__sjx_ph_2__\tem) s {}".toList

def restoredSelectorSheet : List Char :=
  ("p %%styled-jsx-placeholder-1%% em, " ++
    "a:not(%%styled-jsx-placeholder-2%%em) s {}").toList

theorem restoreText_selectorBlanks_selectorSheet :
    restoreText .standard selectorSheet = .ok restoredSelectorSheet ∧
      ∃ s, unshield .standard selectorSheet = .ok s ∧
        List.Forall₂ CombinatorKept (places .standard s)
          (places .standard restoredSelectorSheet) := by
  have h : restoreText .standard selectorSheet = .ok restoredSelectorSheet := by decide +kernel
  exact ⟨h, restoreText_selectorBlanks h⟩

/-- In a negation the blanks in front of the name of an element are lost. -/
theorem restoreText_selectorBlanks_negation :
    ∃ p p', unshield .standard "a:not(%%styled-jsx-placeholder-1%% em) {}".toList =
        .ok "a:not(%%styled-jsx-placeholder-1%% em) {}".toList ∧
      restoreText .standard "a:not(%%styled-jsx-placeholder-1%% em) {}".toList =
        .ok "a:not(%%styled-jsx-placeholder-1%%em) {}".toList ∧
      places .standard "a:not(%%styled-jsx-placeholder-1%% em) {}".toList = [p] ∧
      places .standard "a:not(%%styled-jsx-placeholder-1%%em) {}".toList = [p'] ∧
      InSelector p ∧ p.after = " em) {}".toList ∧ p'.after = "em) {}".toList := by
  refine ⟨⟨"a:not(".toList, " em) {}".toList⟩, ⟨"a:not(".toList, "em) {}".toList⟩,
    by decide +kernel, by decide +kernel, by decide +kernel, by decide +kernel, ⟨?_, ?_⟩, rfl, rfl⟩
  · decide +kernel
  · decide +kernel

end Stencil.Adjacency
