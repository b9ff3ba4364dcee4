import Stencil.Proofs.BlankRuns
import Stencil.Proofs.RestoredForms
import Stencil.Proofs.RestoredPlaces

/-!
# Restoring twice

Restoring a restored style sheet reads the same tokens again, and all texts around them are the same
but for style blanks. A gap that was rewritten calls for nothing more, with one exception: a percent
sign that was joined to its token may be followed by the next token at once, and then the second run
sets the two tokens apart. The result of the second run stays: `restoreText_twice_iff`.
-/

namespace Stencil.Adjacency

open Stencil.Text Stencil.Number Stencil.Token Stencil.Shield

/-- Whether a percent sign stands behind blanks and right in front of the next token. -/
structure LoosePercent (m : Markers) (p : Place) : Prop where
  space : Rule.space p.after ≠ []
  opened : ∃ rest, Rule.beyond p.after = '%' :: rest ∧ m.opensAt rest = true

variable {m : Markers} {p : Place} {rules : List Rule} {b b' gap rest rest' css out : List Char}
  {tail : List (List Char × List Char)}

/-! ### Places that call for nothing -/

/-- If neither units nor percent signs are out of place and no blanks become one space, a gap stays
whatever rules are used. -/
theorem chosen_eq_keep (hunit : Rule.onUnit m p.after = none)
    (hpercent : Rule.onPercent m p.after = none) (hat : Rule.onAtRule p ≠ some .oneSpace)
    (rules : List Rule) : chosen m rules p = .keep := by
  have hact (r : Rule) (w : Rewrite) (h : r.act m p = some w) : w = .keep := by
    cases r with
    | unitSuffix => simp [Rule.act, hunit] at h
    | percentSuffix => simp [Rule.act, hpercent] at h
    | functionArgument => exact eq_keep_of_onArgument h
    | atRuleParameter => exact (eq_of_onAtRule h).resolve_left fun he => hat (he ▸ h)
    | selector => exact eq_keep_of_onSelector h
    | noMatch => exact (Option.some.inj h).symm
  unfold chosen
  cases h : Rule.decide? m p rules with
  | none => rfl
  | some q => exact hact q.1 q.2 (Rule.mem_of_decide? h).2

theorem chosen_cons_eq_keep {c : Char} {x : List Char} (hc : isStyleBlank c = false)
    (hclosed : m.opensAt (c :: x) = false) (hsign : c = '%' → m.opensAt x = false) (b : List Char)
    (rules : List Rule) : chosen m rules ⟨b, c :: x⟩ = .keep := by
  have hspace : Rule.space (c :: x) = [] := by simp [Rule.space, hc]
  have hpercent : (startsWith ['%'] (c :: x) && m.opensAt x) = false := by
    rw [startsWith_singleton_eq, Bool.and_eq_false_iff]
    by_cases h : c = '%'
    · exact .inr (hsign h)
    · exact .inl (by simpa using h)
  refine chosen_eq_keep ?_ ?_ ?_ rules
  · simp [Rule.onUnit, hclosed, hpercent, hspace]
  · simp [Rule.onPercent, hspace]
  · simp only [Rule.onAtRule, hspace]
    split_ifs <;> simp_all

theorem chosen_space_eq_keep {c : Char} {x : List Char} (hc : isStyleBlank c = false)
    (hletter : isLetter c = false) (hclosed : m.opensAt (' ' :: c :: x) = false)
    (hsign : c = '%' → m.opensAt (c :: x) = true) (b : List Char) (rules : List Rule) :
    chosen m rules ⟨b, ' ' :: c :: x⟩ = .keep := by
  have hblank : isStyleBlank ' ' = true := by decide
  have hspace : Rule.space (' ' :: c :: x) = [' '] := by simp [Rule.space, hc, hblank]
  have hbeyond : Rule.beyond (' ' :: c :: x) = c :: x := by simp [Rule.beyond, hc, hblank]
  have hunit : startsUnit (c :: x) = false := startsUnit_cons_of_not_isLetter hletter
  have hpercent : (startsWith ['%'] (c :: x) && !m.opensAt (c :: x)) = false := by
    rw [startsWith_singleton_eq, Bool.and_eq_false_iff]
    by_cases h : c = '%'
    · exact .inr (by simp [hsign h])
    · exact .inl (by simpa using h)
  refine chosen_eq_keep ?_ ?_ ?_ rules
  · have hfirst : startsWith ['%'] (' ' :: c :: x) = false := rfl
    simp [Rule.onUnit, hclosed, hfirst, hbeyond, hunit]
  · simpa [Rule.onPercent, hspace, hbeyond] using hpercent
  · simp only [Rule.onAtRule, hspace]
    split_ifs <;> simp_all

theorem exists_letter_of_startsUnit {s : List Char} (h : startsUnit s = true) :
    ∃ c r, s = c :: r ∧ isLetter c = true := by
  cases s with
  | nil => exact absurd h (by decide +kernel)
  | cons c s =>
    refine ⟨c, s, rfl, ?_⟩
    by_contra hc
    rw [startsUnit_cons_of_not_isLetter (by simpa using hc)] at h
    exact absurd h (by simp)

/-! ### The second run at one place -/

section Rewritten

variable (h : Behind .standard rest rest') (b' : List Char) (rules : List Rule)
include h

theorem chosen_of_separate (hopens : Markers.standard.opensAt (gap ++ rest) = true) :
    chosen .standard rules ⟨b', ' ' :: gap ++ rest'⟩ = .keep := by
  rw [h.opensAt_eq] at hopens
  obtain ⟨r, hr⟩ := Markers.opensAt_standard_iff.1 hopens
  have hclosed : Markers.standard.opensAt (' ' :: (gap ++ rest')) = false :=
    Markers.standard_not_opensAt_of_ne (by decide) _
  rw [hr] at hopens hclosed
  rw [List.cons_append, hr]
  exact chosen_space_eq_keep (by decide) (by decide) hclosed (fun _ => hopens) b' rules

omit h in
theorem chosen_of_separateSecond (x : List Char) :
    chosen .standard rules ⟨b', '%' :: ' ' :: x⟩ = .keep := by
  have hclosed : Markers.standard.opensAt ('%' :: ' ' :: x) = false :=
    Markers.standard_not_opensAt_percent_of_ne (by decide) x
  have hspace : Markers.standard.opensAt (' ' :: x) = false :=
    Markers.standard_not_opensAt_of_ne (by decide) x
  exact chosen_cons_eq_keep (by decide) hclosed (fun _ => hspace) b' rules

theorem chosen_of_joinUnit (hunit : startsUnit (Rule.beyond (gap ++ rest)) = true) :
    chosen .standard rules ⟨b', gap.dropWhile isStyleBlank ++ rest'⟩ = .keep := by
  obtain ⟨c, r, hr, hletter⟩ := exists_letter_of_startsUnit hunit
  have hc := ne_percent_of_isLetter hletter
  obtain ⟨g, hg⟩ := h.cons_of_ne_percent hc ((h.beyond_append gap).symm.trans hr)
  have hclosed : Markers.standard.opensAt (c :: (g ++ rest')) = false :=
    Markers.standard_not_opensAt_of_ne hc _
  rw [hg, List.cons_append]
  exact chosen_cons_eq_keep (not_isStyleBlank_of_isLetter hletter) hclosed
    (fun he => absurd he hc) b' rules

theorem chosen_of_joinPercent {x : List Char} (hx : Rule.beyond (gap ++ rest) = '%' :: x)
    (hclosed : Markers.standard.opensAt ('%' :: x) = false)
    (hnext : Markers.standard.opensAt x = false) :
    chosen .standard rules ⟨b', gap.dropWhile isStyleBlank ++ rest'⟩ = .keep := by
  have hbeyond := h.beyond_append gap
  rw [hx] at hbeyond
  rw [hbeyond] at hclosed
  obtain ⟨g, hg, rfl⟩ := Markers.cons_of_not_opensAt h.opened hbeyond.symm hclosed
  rw [h.opensAt_eq, hg] at hclosed
  rw [h.opensAt_eq] at hnext
  rw [hg]
  exact chosen_cons_eq_keep (by decide) hclosed (fun _ => hnext) b' rules

theorem chosen_of_oneSpace (hbrace : startsWith ['{'] (Rule.beyond (gap ++ rest)) = true) :
    chosen .standard rules ⟨b', ' ' :: gap.dropWhile isStyleBlank ++ rest'⟩ = .keep := by
  have hbrace_ne : '{' ≠ '%' := by decide
  obtain ⟨x, hx⟩ := startsWith_singleton.1 hbrace
  obtain ⟨g, hg⟩ := h.cons_of_ne_percent hbrace_ne ((h.beyond_append gap).symm.trans hx)
  have hclosed : Markers.standard.opensAt (' ' :: '{' :: (g ++ rest')) = false :=
    Markers.standard_not_opensAt_of_ne (by decide) _
  rw [hg]
  exact chosen_space_eq_keep (by decide) (by decide) hclosed (fun he => absurd he hbrace_ne) b'
    rules

/-- A gap that was rewritten calls for nothing more, if no percent sign was loose. -/
theorem chosen_again (hb : Alike b b') (hloose : ¬ LoosePercent .standard ⟨b, gap ++ rest⟩) :
    chosen .standard rules
      ⟨b', (chosen .standard rules ⟨b, gap ++ rest⟩).apply gap ++ rest'⟩ = .keep := by
  have hjust := justified_chosen .standard rules ⟨b, gap ++ rest⟩
  cases hw : chosen .standard rules ⟨b, gap ++ rest⟩ with
  | keep =>
    rw [Rewrite.apply_keep, ← h.chosen_eq hb gap rules]
    exact hw
  | separate =>
    rw [hw] at hjust
    cases hjust with
    | separate hopens => exact chosen_of_separate h b' rules hopens
  | separateSecond =>
    rw [hw] at hjust
    cases hjust with
    | separateSecond hrest hclosed hopens =>
      obtain ⟨g, rfl, -⟩ := Markers.cons_of_not_opensAt h.opened hrest hclosed
      exact chosen_of_separateSecond b' rules (g ++ rest')
  | join =>
    rw [hw] at hjust
    rw [Rewrite.apply_join]
    cases hjust with
    | joinUnit _ hunit => exact chosen_of_joinUnit h b' rules hunit
    | joinPercent hspace hpercent hclosed =>
      obtain ⟨x, hx⟩ := startsWith_singleton.1 hpercent
      have hnext : Markers.standard.opensAt x = false := by
        by_contra hopens
        exact hloose ⟨hspace, x, hx, by simpa using hopens⟩
      rw [hx] at hclosed
      exact chosen_of_joinPercent h b' rules hx hclosed hnext
  | oneSpace =>
    rw [hw] at hjust
    rw [Rewrite.apply_oneSpace]
    cases hjust with
    | oneSpace _ _ _ hbrace => exact chosen_of_oneSpace h b' rules hbrace

end Rewritten

theorem chosen_table_of_loose (hl : LoosePercent .standard p) :
    chosen .standard Rule.table p = .join := by
  obtain ⟨hspace, rest, hbeyond, hopens⟩ := hl
  have hafter : p.after = Rule.space p.after ++ '%' :: rest := by
    rw [← hbeyond]
    exact List.takeWhile_append_dropWhile.symm
  have hjoin := (blanks_space hspace).chosen_table_append (c := '%') (by decide) p.before rest
  rw [← hafter] at hjoin
  rw [hjoin]
  simp [Markers.standard_not_opensAt_percent hopens]

theorem chosen_table_percent {x : List Char} (hopens : Markers.standard.opensAt x = true) :
    chosen .standard Rule.table ⟨b, '%' :: x⟩ = .separateSecond := by
  have hsign : startsWith ['%'] ('%' :: x) = true := startsWith_singleton.2 ⟨x, rfl⟩
  have hunit : Rule.onUnit .standard ('%' :: x) = some .separateSecond := by
    simp [Rule.onUnit, Markers.standard_not_opensAt_percent hopens, hsign, hopens]
  simp [chosen, Rule.table, Rule.decide?, Rule.act, hunit]

section Again

variable (hb : Alike b b') (h : Behind .standard rest rest')
include h

/-- A loose percent sign is joined to its token by the first run, and the second run sets it apart
from the next token. -/
theorem chosen_again_of_loose (hl : LoosePercent .standard ⟨b, gap ++ rest⟩) (b' : List Char) :
    (∃ g, (chosen .standard Rule.table ⟨b, gap ++ rest⟩).apply gap = '%' :: g) ∧
      chosen .standard Rule.table
        ⟨b', (chosen .standard Rule.table ⟨b, gap ++ rest⟩).apply gap ++ rest'⟩ =
          .separateSecond := by
  rw [chosen_table_of_loose hl, Rewrite.apply_join]
  obtain ⟨-, x, hx, hopens⟩ := hl
  rw [h.beyond_append gap] at hx
  have hclosed : Markers.standard.opensAt (gap.dropWhile isStyleBlank ++ rest) = false := by
    rw [hx]
    exact Markers.standard_not_opensAt_percent hopens
  obtain ⟨g, hg, rfl⟩ := Markers.cons_of_not_opensAt h.opened hx hclosed
  rw [hg, List.cons_append]
  refine ⟨⟨g, rfl⟩, chosen_table_percent ?_⟩
  rw [← h.opensAt_eq]
  exact hopens

include hb

/-- The second run leaves the gap behind a token exactly if no percent sign was loose there. -/
theorem apply_chosen_again_iff :
    (chosen .standard Rule.table ⟨b', (chosen .standard Rule.table ⟨b, gap ++ rest⟩).apply gap ++
      rest'⟩).apply ((chosen .standard Rule.table ⟨b, gap ++ rest⟩).apply gap) =
        (chosen .standard Rule.table ⟨b, gap ++ rest⟩).apply gap ↔
      ¬ LoosePercent .standard ⟨b, gap ++ rest⟩ := by
  constructor
  · intro he hl
    obtain ⟨⟨g, hg⟩, hsecond⟩ := chosen_again_of_loose h hl b'
    rw [hsecond, hg] at he
    have hlength := congrArg List.length he
    simp [Rewrite.apply, Rewrite.inserted, Rewrite.removed] at hlength
  · intro hl
    rw [chosen_again h b' Rule.table hb hl, Rewrite.apply_keep]

theorem not_loose_again :
    ¬ LoosePercent .standard
      ⟨b', (chosen .standard Rule.table ⟨b, gap ++ rest⟩).apply gap ++ rest'⟩ := by
  intro hagain
  have hjoin := chosen_table_of_loose hagain
  by_cases hl : LoosePercent .standard ⟨b, gap ++ rest⟩
  · rw [(chosen_again_of_loose h hl b').2] at hjoin
    exact absurd hjoin (by simp)
  · rw [chosen_again h b' Rule.table hb hl] at hjoin
    exact absurd hjoin (by simp)

end Again

/-! ### The second run -/

theorem settled_settled_iff (hb : Alike b b') :
    settled .standard Rule.table b' (settled .standard Rule.table b tail) =
        settled .standard Rule.table b tail ↔
      ∀ p ∈ placesFrom .standard b tail, ¬ LoosePercent .standard p := by
  -- The texts before a token differ more and more in the two runs, but in style blanks alone.
  induction tail generalizing b b' with
  | nil => simp [placesFrom, visit]
  | cons q more ih =>
    obtain ⟨digits, gap⟩ := q
    rw [settled_cons, settled_cons, placesFrom_cons, List.forall_mem_cons, List.cons.injEq,
      Prod.mk.injEq, apply_chosen_again_iff hb (behind_settled _), ih (alike_settled hb _ rfl)]
    simp

theorem not_loose_settled (hb : Alike b b') :
    ∀ p ∈ placesFrom .standard b' (settled .standard Rule.table b tail),
      ¬ LoosePercent .standard p :=
  forall_mem_places_settled (fun hb h => not_loose_again hb h) hb

/-! ### Whole style sheets -/

theorem settledText_settledText_iff (s : List Char) :
    settledText .standard Rule.table (settledText .standard Rule.table s) =
        settledText .standard Rule.table s ↔
      ∀ p ∈ places .standard s, ¬ LoosePercent .standard p := by
  have hcut := cut_settledText Markers.standard_head?_ne_space Rule.table s
  have hagain := cut_settledText Markers.standard_head?_ne_space Rule.table
    (settledText .standard Rule.table s)
  have halike : Alike (Markers.standard.cut s).head (Markers.standard.cut s).head := rfl
  rw [hcut] at hagain
  rw [places, ← settled_settled_iff halike]
  constructor
  · intro he
    -- The same text has the same cut, so the gaps were not changed.
    rw [he, hcut] at hagain
    exact ((Cut.mk.injEq ..).mp hagain).2.symm
  · intro he
    rw [settledText_eq _ _ (settledText .standard Rule.table s), hcut]
    simp only
    rw [he, settledText_eq _ _ s]

theorem not_loose_settledText (s : List Char) :
    ∀ p ∈ places .standard (settledText .standard Rule.table s), ¬ LoosePercent .standard p := by
  rw [places_settledText]
  exact not_loose_settled rfl

/-- A restored style sheet can be restored again, and that changes it exactly if a percent sign was
loose in the text before. After the second run nothing changes any more. -/
theorem restoreText_twice_iff (h : restoreText .standard css = .ok out) :
    ∃ s again, unshield .standard css = .ok s ∧ restoreText .standard out = .ok again ∧
      (again = out ↔ ∀ p ∈ places .standard s, ¬ LoosePercent .standard p) ∧
        restoreText .standard again = .ok again := by
  have hout := formless_of_restoreText h
  obtain ⟨s, hs, rfl⟩ := restoreText_eq_ok_iff.1 h
  have hsecond := restoreText_of_formless hout Rule.table
  have hthird := restoreText_of_formless (formless_of_restoreText hsecond) Rule.table
  rw [(settledText_settledText_iff _).2 (not_loose_settledText s)] at hthird
  exact ⟨s, _, hs, hsecond, settledText_settledText_iff s, hthird⟩

/-- A style sheet with a unit to join, a percent sign to join and two tokens to set apart. -/
def marginSheet : List Char :=
  "a:__sjx_ph_1__ px __sjx_ph_2__ %;b:__sjx_ph_3____sjx_ph_4__".toList

def restoredMarginSheet : List Char :=
  ("a:%%styled-jsx-placeholder-1%%px %%styled-jsx-placeholder-2%%%;" ++
    "b:%%styled-jsx-placeholder-3%% %%styled-jsx-placeholder-4%%").toList

theorem restoreText_twice_iff_marginSheet :
    restoreText .standard marginSheet = .ok restoredMarginSheet ∧
      ∃ s again, unshield .standard marginSheet = .ok s ∧
        restoreText .standard restoredMarginSheet = .ok again ∧
          (again = restoredMarginSheet ↔ ∀ p ∈ places .standard s, ¬ LoosePercent .standard p) ∧
            restoreText .standard again = .ok again := by
  have h : restoreText .standard marginSheet = .ok restoredMarginSheet := by decide +kernel
  exact ⟨h, restoreText_twice_iff h⟩

/-- A loose percent sign goes to the first token, and then a space comes behind it. -/
theorem restoreText_twice_loosePercent :
    restoreText .standard "%%styled-jsx-placeholder-1%% %%%styled-jsx-placeholder-2%%".toList =
        .ok "%%styled-jsx-placeholder-1%%%%%styled-jsx-placeholder-2%%".toList ∧
      restoreText .standard "%%styled-jsx-placeholder-1%%%%%styled-jsx-placeholder-2%%".toList =
        .ok "%%styled-jsx-placeholder-1%%% %%styled-jsx-placeholder-2%%".toList ∧
      "%%styled-jsx-placeholder-1%%% %%styled-jsx-placeholder-2%%".toList ≠
        "%%styled-jsx-placeholder-1%%%%%styled-jsx-placeholder-2%%".toList := by
  refine ⟨?_, ?_, ?_⟩ <;> decide +kernel

end Stencil.Adjacency
