import Stencil.Proofs.BlankChanges

/-!
# Behind a run of blanks

What the rules do about a token that blanks set apart from what follows depends on little: the
blanks themselves, whether a unit or a percent sign follows them, and whether they stand in front of
the block of an at-rule. None of the rules shadows another one there: `Blanks.chosen_table_append`.
-/

namespace Stencil.Adjacency

open Stencil.Text Stencil.Token

structure Blanks (s : List Char) : Prop where
  ne_nil : s ≠ []
  blank : ∀ c ∈ s, isStyleBlank c = true

variable {blanks rest : List Char} {c : Char}

theorem startsUnit_cons_of_not_isLetter {c : Char} {x : List Char} (hc : isLetter c = false) :
    startsUnit (c :: x) = false := by
  have hnone : isUnit [] = false := by decide +kernel
  simp [startsUnit, hc, hnone]

theorem ne_percent_of_isLetter {c : Char} (h : isLetter c = true) : c ≠ '%' := by
  rintro rfl
  exact absurd h (by decide)

theorem not_isStyleBlank_of_isLetter {c : Char} (h : isLetter c = true) :
    isStyleBlank c = false := by
  cases hc : isStyleBlank c with
  | false => rfl
  | true =>
    rcases eq_of_isStyleBlank hc with rfl | rfl | rfl | rfl | rfl <;> exact absurd h (by decide)

theorem blanks_space {s : List Char} (h : Rule.space s ≠ []) : Blanks (Rule.space s) :=
  ⟨h, fun _ hc => holds_of_mem_takeWhile hc⟩

/-- The first two rules decide before all others, and of the others only the one for at-rules
changes anything. -/
theorem chosen_table_eq (m : Markers) (p : Place) :
    chosen m Rule.table p = (Rule.onUnit m p.after).getD ((Rule.onPercent m p.after).getD
      (if Rule.onArgument p = none ∧ Rule.onAtRule p = some .oneSpace then .oneSpace
      else .keep)) := by
  simp only [chosen, Rule.table, Rule.decide?, Rule.act]
  cases Rule.onUnit m p.after with
  | some w => rfl
  | none =>
    cases Rule.onPercent m p.after with
    | some w => rfl
    | none =>
      cases ha : Rule.onArgument p with
      | some w =>
        obtain rfl := eq_keep_of_onArgument ha
        rfl
      | none =>
        cases hr : Rule.onAtRule p with
        | some w => rcases eq_of_onAtRule hr with rfl | rfl <;> rfl
        | none =>
          cases hs : Rule.onSelector p with
          | some w =>
            obtain rfl := eq_keep_of_onSelector hs
            rfl
          | none => rfl

namespace Blanks

variable (h : Blanks blanks)
include h

theorem exists_cons : ∃ b x, blanks = b :: x ∧ isStyleBlank b = true := by
  obtain ⟨b, x, rfl⟩ := List.exists_cons_of_ne_nil h.ne_nil
  exact ⟨b, x, rfl, h.blank b List.mem_cons_self⟩

theorem space_append (hc : isStyleBlank c = false) (rest : List Char) :
    Rule.space (blanks ++ c :: rest) = blanks := by
  rw [Rule.space, List.takeWhile_append_of_pos h.blank]
  simp [hc]

theorem beyond_append (hc : isStyleBlank c = false) (rest : List Char) :
    Rule.beyond (blanks ++ c :: rest) = c :: rest := by
  rw [Rule.beyond, List.dropWhile_append_of_pos h.blank]
  simp [hc]

theorem onUnit_append (hc : isStyleBlank c = false) (rest : List Char) :
    Rule.onUnit .standard (blanks ++ c :: rest) =
      if startsUnit (c :: rest) then some .join else none := by
  obtain ⟨b, x, rfl, hb⟩ := h.exists_cons
  have hne : b ≠ '%' := by
    rintro rfl
    exact absurd hb (by decide)
  have hclosed : Markers.standard.opensAt (b :: x ++ c :: rest) = false :=
    Markers.standard_not_opensAt_of_ne hne _
  have hsign : startsWith ['%'] (b :: x ++ c :: rest) = false := by
    rw [startsWith_singleton_eq]
    simpa using hne
  rw [Rule.onUnit, hclosed, hsign, h.space_append hc, h.beyond_append hc]
  simp

theorem onPercent_append (hc : isStyleBlank c = false) (rest : List Char) :
    Rule.onPercent .standard (blanks ++ c :: rest) =
      if c == '%' && !Markers.standard.opensAt (c :: rest) then some .join else none := by
  have hne := h.ne_nil
  rw [Rule.onPercent, h.space_append hc, h.beyond_append hc, startsWith_singleton_eq]
  simp [hne]

theorem onAtRule_append (hc : isStyleBlank c = false) (b rest : List Char) :
    Rule.onAtRule ⟨b, blanks ++ c :: rest⟩ =
      if startsWith ['@'] (Place.head ⟨b, blanks ++ c :: rest⟩) then
        if blanks != [' '] && c == '{' then some .oneSpace else some .keep
      else none := by
  have hne := h.ne_nil
  simp only [Rule.onAtRule, h.space_append hc, h.beyond_append hc, startsWith_singleton_eq]
  simp [hne]

omit h in
theorem endsArgument_append_brace (h : ∀ c ∈ blanks, isStyleBlank c = true) (rest : List Char) :
    Rule.endsArgument (blanks ++ '{' :: rest) = false := by
  induction blanks with
  | nil => rfl
  | cons b blanks ih =>
    obtain ⟨hb, hblanks⟩ := List.forall_mem_cons.1 h
    cases hi : isIndent b
    · have hstop : (b == ')' || b == ',') = false := by
        rcases eq_of_isStyleBlank hb with rfl | rfl | rfl | rfl | rfl <;> decide
      simpa [Rule.endsArgument, hi] using hstop
    · simpa [Rule.endsArgument, hi] using ih hblanks

theorem oneSpace_iff (hc : isStyleBlank c = false) (b rest : List Char) :
    (Rule.onArgument ⟨b, blanks ++ c :: rest⟩ = none ∧
        Rule.onAtRule ⟨b, blanks ++ c :: rest⟩ = some .oneSpace) ↔
      c = '{' ∧ startsWith ['@'] (Place.head ⟨b, blanks ++ c :: rest⟩) = true ∧ blanks ≠ [' '] := by
  rw [h.onAtRule_append hc]
  constructor
  · rintro ⟨-, hone⟩
    split_ifs at hone with hhead hbrace
    · rw [Bool.and_eq_true] at hbrace
      exact ⟨by simpa using hbrace.2, hhead, by simpa using hbrace.1⟩
    · simp at hone
  · rintro ⟨rfl, hhead, hne⟩
    refine ⟨?_, by simp [hhead, hne]⟩
    simp [Rule.onArgument, endsArgument_append_brace h.blank]

/-- Behind blanks the full table joins a unit or a percent sign to the token, makes the blanks in
front of the block of an at-rule one space, and keeps all else. -/
theorem chosen_table_append (hc : isStyleBlank c = false) (b rest : List Char) :
    chosen .standard Rule.table ⟨b, blanks ++ c :: rest⟩ =
      if startsUnit (c :: rest) || c == '%' && !Markers.standard.opensAt (c :: rest) then .join
      else if c = '{' ∧ startsWith ['@'] (Place.head ⟨b, blanks ++ c :: rest⟩) = true ∧
        blanks ≠ [' '] then .oneSpace
      else .keep := by
  simp only [chosen_table_eq, h.onUnit_append hc, h.onPercent_append hc, h.oneSpace_iff hc]
  cases startsUnit (c :: rest)
  · cases c == '%' && !Markers.standard.opensAt (c :: rest) <;> rfl
  · rfl

end Blanks

end Stencil.Adjacency
