import Stencil.Proofs.RestoredPlaces
import Stencil.Proofs.ShieldRoundTrip
import Stencil.Proofs.StatementEnds

/-!
# Tokens in interpolations

A token inside of an interpolation is a part of a value, a name or a selector. The choice of its
form knows semicolons and braces alone: it takes the brace that opens an interpolation for the
beginning of a block and the one that closes it for the end of a statement. So a token that comes
first in an interpolation is taken for a whole statement if nothing behind it says otherwise, and a
token that is alone there always is, wherever the interpolation stands: `shield_interpolated`.
-/

namespace Stencil.Shield

open Stencil.Text Stencil.Number Stencil.Token Stencil.Adjacency

/-- Whether a place lies inside of an interpolation in which `lead` stands before it. -/
structure Interpolated (p : Place) (lead : List Char) : Prop where
  opened : ∃ a, p.before = a ++ '#' :: '{' :: lead
  unclosed : '}' ∉ lead

/-- What the form of a token inside of an interpolation is. -/
structure InterpolatedForm (p : Place) (lead : List Char) (f : Form) : Prop where
  /-- It is the form of a whole statement if only blanks stand between the token and the last
  semicolon or opening brace before it, and neither a percent sign of its own, nor a colon, nor a
  block follows. -/
  statement_iff : f.kind = .statement ↔ allBlank (behindLast isBoundary lead) = true ∧
    percentFollows .standard p.after = false ∧ namesProperty p.after = false ∧
      opensBlock p.after = false
  /-- A token that has the interpolation to itself has the form of a whole statement. -/
  alone : allBlank lead = true → ∀ rest b, p.after = rest ++ '}' :: b → allBlank rest = true →
    f.kind = .statement

variable {m : Markers} {d : Dialect} {s out lead before rest b : List Char} {p : Place} {f : Form}

/-! ### Places and forms -/

theorem forall₂_kindAt_shielded (m : Markers) (d : Dialect) (before : List Char)
    (tail : List (List Char × List Char)) :
    List.Forall₂ (fun p f => f.kind = kindAt m d p) (placesFrom m before tail)
      ((shielded m d before tail).map Prod.fst) := by
  induction tail generalizing before with
  | nil => exact .nil
  | cons q more ih =>
    obtain ⟨digits, gap⟩ := q
    rw [placesFrom_cons, shielded_cons, List.map_cons]
    exact .cons rfl (ih _)

theorem exists_shieldCut_of_shield (h : shield m d s = .ok out) :
    ∃ c, shieldCut m d s = .ok c ∧ out = c.weave Form.written ∧
      List.Forall₂ (fun p f => f.kind = kindAt m d p) (places m s) c.lexemes := by
  obtain ⟨hle, rfl⟩ := shield_eq_ok_iff.1 h
  exact ⟨_, shieldCut_eq_ok_iff.2 ⟨hle, rfl⟩, rfl, forall₂_kindAt_shielded m d _ _⟩

/-! ### Inside of an interpolation -/

theorem kindAt_eq_statement_iff : kindAt m .block p = .statement ↔
    allBlank p.opening = true ∧ percentFollows m p.after = false ∧
      namesProperty p.after = false ∧ opensBlock p.after = false := by
  have halone : standsAlone .block p = true ↔
      allBlank p.opening = true ∧ namesProperty p.after = false ∧ opensBlock p.after = false := by
    simp only [standsAlone, aloneInBlock, Bool.and_eq_true, Bool.not_eq_true', and_assoc]
    exact and_congr_right fun _ => and_comm
  unfold kindAt
  split_ifs with hpercent hstands
  · simp [hpercent]
  · simp [hpercent, halone.1 hstands]
  · simp only [false_iff]
    exact fun h => hstands (halone.2 ⟨h.1, h.2.2⟩)

theorem Interpolated.opening_eq (h : Interpolated p lead) :
    p.opening = behindLast isBoundary lead := by
  obtain ⟨a, ha⟩ := h.opened
  have hbefore : p.before = (a ++ ['#']) ++ '{' :: lead := by simpa using ha
  rw [Place.opening, hbefore, behindLast_append_cons (by decide)]

/-- Between blanks and the end of an interpolation nothing goes on. -/
theorem goesOn_blanks_append (hrest : allBlank rest = true) (b : List Char) :
    percentFollows m (rest ++ '}' :: b) = false ∧ namesProperty (rest ++ '}' :: b) = false ∧
      opensBlock (rest ++ '}' :: b) = false := by
  have hblank : ∀ c ∈ rest, isBlank c = true := List.all_eq_true.1 hrest
  have hnone : rest.find? isBoundary = none := by
    rw [List.find?_eq_none]
    intro c hc
    simp [not_isBoundary_of_isBlank (hblank c hc)]
  refine ⟨?_, ?_, ?_⟩
  · have hsign : startsWith ['%'] (rest ++ '}' :: b) = false := by
      rw [startsWith_singleton_eq]
      cases rest with
      | nil => rfl
      | cons c rest =>
        have hc : c ≠ '%' := by
          rintro rfl
          exact absurd (hblank '%' List.mem_cons_self) (by decide)
        simpa using hc
    rw [percentFollows, hsign, Bool.false_and]
  · have hstrip : stripLeft (rest ++ '}' :: b) = '}' :: b := by
      rw [stripLeft, List.dropWhile_append_of_pos hblank]
      rfl
    rw [namesProperty, hstrip]
    rfl
  · rw [opensBlock, meets, List.find?_append, hnone]
    rfl

theorem Interpolated.form (h : Interpolated p lead) (hf : f.kind = kindAt .standard .block p) :
    InterpolatedForm p lead f := by
  have hiff := kindAt_eq_statement_iff (m := .standard) (p := p)
  rw [← hf, h.opening_eq] at hiff
  refine ⟨hiff, fun hlead rest b hafter hrest => hiff.2 ⟨?_, ?_⟩⟩
  · have hfree : ∀ c ∈ lead, isBoundary c = false := fun c hc =>
      not_isBoundary_of_isBlank (List.all_eq_true.1 hlead c hc)
    have hwhole := behindLast_append_of_forall hfree []
    rw [List.nil_append] at hwhole
    rw [hwhole]
    exact hlead
  · rw [hafter]
    exact goesOn_blanks_append hrest b

/-- Among blocks, a token inside of an interpolation is shielded as a whole statement if it comes
first there or behind a semicolon or a brace, and neither a percent sign, a colon nor a block
follows; a token that is alone in its interpolation always is. -/
theorem shield_interpolated (h : shield .standard .block s = .ok out) :
    ∃ c, shieldCut .standard .block s = .ok c ∧ out = c.weave Form.written ∧
      List.Forall₂ (fun p f => ∀ lead, Interpolated p lead → InterpolatedForm p lead f)
        (places .standard s) c.lexemes := by
  obtain ⟨c, hc, hout, hkinds⟩ := exists_shieldCut_of_shield h
  exact ⟨c, hc, hout, hkinds.imp fun _ _ hf _ hlead => hlead.form hf⟩

def interpolatedSheet : List Char :=
  (".a#\x7b%%styled-jsx-placeholder-0%%\x7d\x7bw#\x7b %%styled-jsx-placeholder-1%% + 1\x7d:" ++
    "calc(#\x7b1 + %%styled-jsx-placeholder-2%%\x7d);c:#\x7b%%styled-jsx-placeholder-3%%%\x7d\x7d"
    ).toList

def shieldedInterpolatedSheet : List Char :=
  (".a#\x7b/*!__sjx_stmt_0__*/\x7d\x7bw#\x7b /*!__sjx_stmt_1__*/ + 1\x7d:" ++
    "calc(#\x7b1 + __sjx_ph_2__\x7d);c:#\x7b__sjx_pct_3__\x7d\x7d").toList

theorem shield_interpolated_interpolatedSheet :
    shield .standard .block interpolatedSheet = .ok shieldedInterpolatedSheet ∧
      ∃ c, shieldCut .standard .block interpolatedSheet = .ok c ∧
        shieldedInterpolatedSheet = c.weave Form.written ∧
          List.Forall₂ (fun p f => ∀ lead, Interpolated p lead → InterpolatedForm p lead f)
            (places .standard interpolatedSheet) c.lexemes := by
  have h : shield .standard .block interpolatedSheet = .ok shieldedInterpolatedSheet := by
    decide +kernel
  exact ⟨h, shield_interpolated h⟩

/-- A token that is the value of a property, and alone in its interpolation, is shielded as a whole
statement. -/
theorem shield_interpolated_value :
    ∃ p, places .standard "a\x7bw:#\x7b%%styled-jsx-placeholder-0%%\x7d\x7d".toList = [p] ∧
      Interpolated p [] ∧
      shield .standard .block "a\x7bw:#\x7b%%styled-jsx-placeholder-0%%\x7d\x7d".toList =
        .ok "a\x7bw:#\x7b/*!__sjx_stmt_0__*/\x7d\x7d".toList := by
  refine ⟨⟨"a\x7bw:#\x7b".toList, "\x7d\x7d".toList⟩, by decide +kernel, ?_, by decide +kernel⟩
  exact ⟨⟨"a\x7bw:".toList, by decide +kernel⟩, by simp⟩

end Stencil.Shield
