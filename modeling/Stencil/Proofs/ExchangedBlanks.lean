import Stencil.Proofs.RestoreTwice

/-!
# Blanks of any kind

Compilers print spaces, tabs or line breaks between a token and what belongs to it. Where a percent
sign, a unit or the block of an at-rule follows, it does not matter which and how many: what becomes
of them is the same, and no other token sees a difference, neither before it nor behind it. So the
whole style sheet is restored to the same text: `restoreText_exchangedBlanks`.
-/

namespace Stencil.Adjacency

open Stencil.Text Stencil.Token Stencil.Shield

/-- What a token may be drawn to over blanks: a percent sign that opens no token, a unit that
belongs to the value, and the block of an at-rule in whose prelude the token stands. -/
inductive Attached (before : List Char) : List Char → Prop
  | percent {r : List Char} (h : Markers.standard.opensAt ('%' :: r) = false) :
      Attached before ('%' :: r)
  | unit {rest : List Char} (h : startsUnit rest = true) : Attached before rest
  | block {r : List Char} (h : startsWith ['@'] (Place.head ⟨before, '{' :: r⟩) = true) :
      Attached before ('{' :: r)

variable {m : Markers} {p : Place} {b b' before gap rest s digits blanks blanks' : List Char}
  {rules : List Rule} {front tail more : List (List Char × List Char)}

/-! ### One token -/

theorem Attached.exists_cons (h : Attached before rest) :
    ∃ c r, rest = c :: r ∧ isStyleBlank c = false := by
  cases h with
  | percent => exact ⟨'%', _, rfl, by decide⟩
  | unit h =>
    obtain ⟨c, r, rfl, hc⟩ := exists_letter_of_startsUnit h
    exact ⟨c, r, rfl, not_isStyleBlank_of_isLetter hc⟩
  | block => exact ⟨'{', _, rfl, by decide⟩

/-- What the full table does about blanks of any kind: in front of a block one space is left, and
else nothing. -/
theorem Attached.chosen_eq (h : Attached b rest) (hblanks : Blanks blanks) :
    chosen .standard Rule.table ⟨b, blanks ++ rest⟩ =
      if rest.head? ≠ some '{' then .join else if blanks = [' '] then .keep else .oneSpace := by
  cases h with
  | @percent r h =>
    rw [hblanks.chosen_table_append (by decide)]
    simp [h]
  | unit h =>
    obtain ⟨c, r, rfl, hc⟩ := exists_letter_of_startsUnit h
    have hbrace : c ≠ '{' := by
      rintro rfl
      exact absurd hc (by decide)
    rw [hblanks.chosen_table_append (not_isStyleBlank_of_isLetter hc)]
    simp [h, hbrace]
  | @block r h =>
    have hhead : startsWith ['@'] (Place.head ⟨b, blanks ++ '{' :: r⟩) = true := h
    rw [hblanks.chosen_table_append (by decide), startsUnit_cons_of_not_isLetter (by decide)]
    by_cases hspace : blanks = [' '] <;> simp [hhead, hspace]

theorem Attached.apply_chosen (h : Attached b (gap ++ rest)) (hblanks : Blanks blanks) :
    (chosen .standard Rule.table ⟨b, blanks ++ (gap ++ rest)⟩).apply (blanks ++ gap) =
      if (gap ++ rest).head? ≠ some '{' then gap else ' ' :: gap := by
  have hdrop : (blanks ++ gap).dropWhile isStyleBlank = gap := by
    rw [List.dropWhile_append_of_pos hblanks.blank]
    obtain ⟨c, r, hc, hblank⟩ := h.exists_cons
    cases gap with
    | nil => rfl
    | cons d gap =>
      obtain ⟨rfl, -⟩ := List.cons.inj hc
      simp [hblank]
  rw [h.chosen_eq hblanks]
  split_ifs with hbrace hspace
  · rw [Rewrite.apply_join, hdrop]
  · rw [Rewrite.apply_keep, hspace]
    rfl
  · rw [Rewrite.apply_oneSpace, hdrop]

/-! ### All tokens -/

theorem settled_alike (hb : Alike b b') :
    settled .standard rules b tail = settled .standard rules b' tail := by
  induction tail generalizing b b' with
  | nil => rfl
  | cons q more ih =>
    obtain ⟨digits, gap⟩ := q
    have hsame : Behind .standard (woven Markers.standard.token more)
      (woven Markers.standard.token more) := behind_woven rfl rfl
    have hnext : Alike (b ++ Markers.standard.token digits ++ gap)
      (b' ++ Markers.standard.token digits ++ gap) := (hb.append rfl).append rfl
    rw [settled_cons, settled_cons, hsame.chosen_eq hb, ih hnext]

theorem alike_blanks_append (hblanks : Blanks blanks) (hblanks' : Blanks blanks') (s : List Char) :
    Alike (blanks ++ s) (blanks' ++ s) := by
  have hnone {x : List Char} (hx : Blanks x) : x.filter (fun c => !isStyleBlank c) = [] := by
    rw [List.filter_eq_nil_iff]
    intro c hc
    simp [hx.blank c hc]
  refine Alike.append ?_ rfl
  rw [Alike, hnone hblanks, hnone hblanks']

/-- Exchanging the blanks behind one token changes no gap of the result. -/
theorem settled_exchange (hblanks : Blanks blanks) (hblanks' : Blanks blanks')
    (h : Attached (b ++ woven Markers.standard.token front)
      (gap ++ woven Markers.standard.token more)) :
    settled .standard Rule.table b (front ++ (digits, blanks ++ gap) :: more) =
      settled .standard Rule.table b (front ++ (digits, blanks' ++ gap) :: more) := by
  have hexchanged := alike_blanks_append hblanks hblanks' gap
  induction front generalizing b with
  | nil =>
    -- From here on the texts before a token are no longer the same.
    have hnext : Alike (b ++ Markers.standard.token digits ++ (blanks ++ gap))
        (b ++ Markers.standard.token digits ++ (blanks' ++ gap)) := Alike.append rfl hexchanged
    rw [woven_nil, List.append_nil] at h
    have hgap := h.apply_chosen hblanks
    have hgap' := h.apply_chosen hblanks'
    rw [← List.append_assoc] at hgap hgap'
    rw [List.nil_append, List.nil_append, settled_cons, settled_cons, hgap, hgap',
      settled_alike hnext]
  | cons q front ih =>
    obtain ⟨digits', next⟩ := q
    have hbehind : Behind .standard
        (woven Markers.standard.token (front ++ (digits, blanks ++ gap) :: more))
        (woven Markers.standard.token (front ++ (digits, blanks' ++ gap) :: more)) := by
      refine behind_woven (by simp) ?_
      rw [woven_append, woven_append, woven_cons, woven_cons]
      exact Alike.append rfl (Alike.append rfl (hexchanged.append rfl))
    have hrest : Attached (b ++ Markers.standard.token digits' ++ next ++
        woven Markers.standard.token front) (gap ++ woven Markers.standard.token more) := by
      simpa using h
    rw [List.cons_append, List.cons_append, settled_cons, settled_cons, hbehind.chosen_eq rfl,
      ih hrest]

/-! ### The text with other blanks -/

theorem exists_of_mem_placesFrom (hp : p ∈ placesFrom m b tail) :
    ∃ front digits gap more, tail = front ++ (digits, gap) :: more ∧
      p.before = b ++ woven m.token front ∧ p.after = gap ++ woven m.token more := by
  induction tail generalizing b with
  | nil => simp [placesFrom, visit] at hp
  | cons q more ih =>
    obtain ⟨digits, gap⟩ := q
    rw [placesFrom_cons] at hp
    rcases List.mem_cons.1 hp with rfl | hp
    · exact ⟨[], digits, gap, more, rfl, by simp, rfl⟩
    · obtain ⟨front, digits', gap', more', rfl, hbefore, hafter⟩ := ih hp
      exact ⟨(digits, gap) :: front, digits', gap', more', rfl, by simpa using hbefore, hafter⟩

theorem silent_blanks_append (hblanks : ∀ c ∈ blanks, isStyleBlank c = true)
    (h : Markers.standard.lexeme.Silent gap rest) :
    Markers.standard.lexeme.Silent (blanks ++ gap) rest := by
  induction blanks with
  | nil => exact h
  | cons c blanks ih =>
    obtain ⟨hc, hblanks⟩ := List.forall_mem_cons.1 hblanks
    have hsign : Markers.standard.opening.head? ≠ some c := by
      rw [Markers.standard_opening, List.head?_cons, Ne, Option.some.injEq]
      rintro rfl
      exact absurd hc (by decide)
    exact Lexeme.silent_cons_iff.2 ⟨Markers.read?_cons_of_ne hsign _, ih hblanks⟩

theorem avoids_of_isStyleBlank {c : Char} (hc : isStyleBlank c = true) :
    Form.lexeme.Avoids c := by
  have hsides : ∀ k : Kind, c ∉ k.left ∧ c ∉ k.right := by
    intro k
    rcases eq_of_isStyleBlank hc with rfl | rfl | rfl | rfl | rfl <;> cases k <;> decide
  have hdec : isDecimal c = false := by
    rcases eq_of_isStyleBlank hc with rfl | rfl | rfl | rfl | rfl <;> decide
  intro f hf
  exact Form.not_mem_of_sides hsides hdec hf

theorem formless_blanks_append_iff (hblanks : ∀ c ∈ blanks, isStyleBlank c = true) :
    Formless (blanks ++ s) ↔ Formless s := by
  have hnil : Formless [] := formless_of_not_mem (by simp)
  induction blanks with
  | nil => rfl
  | cons c blanks ih =>
    obtain ⟨hc, hblanks⟩ := List.forall_mem_cons.1 hblanks
    have hsplit := formless_append_cons_iff_of_avoids (a := []) (b := blanks ++ s)
      (avoids_of_isStyleBlank hc)
    rw [List.nil_append] at hsplit
    exact hsplit.trans ((and_iff_right hnil).trans (ih hblanks))

theorem formless_append_blanks_iff (hblanks : Blanks blanks) :
    Formless (s ++ (blanks ++ rest)) ↔ Formless s ∧ Formless rest := by
  obtain ⟨c, x, rfl, hc⟩ := hblanks.exists_cons
  have hx : ∀ d ∈ x, isStyleBlank d = true := (List.forall_mem_cons.1 hblanks.blank).2
  rw [List.cons_append, formless_append_cons_iff_of_avoids (avoids_of_isStyleBlank hc),
    formless_blanks_append_iff hx]

theorem apart_exchange {gap' head : List Char}
    (h : m.lexeme.Apart head (front ++ (digits, gap) :: more))
    (hs : m.lexeme.Silent gap (m.lexeme.front more) → m.lexeme.Silent gap' (m.lexeme.front more)) :
    m.lexeme.Apart head (front ++ (digits, gap') :: more) := by
  induction front generalizing head with
  | nil =>
    obtain ⟨hhead, hreads, hgap⟩ := h
    exact ⟨hhead, hreads, hgap.replace (hs hgap.silent)⟩
  | cons q front ih =>
    obtain ⟨digits', next⟩ := q
    obtain ⟨hhead, hreads, hnext⟩ := h
    exact ⟨hhead, hreads, ih hnext⟩

theorem exists_cut_of_mem_places (hp : ⟨before, blanks ++ rest⟩ ∈ places .standard s)
    (hblanks : Blanks blanks) :
    ∃ head front digits g more,
      Markers.standard.cut s = ⟨head, front ++ (digits, blanks ++ g) :: more⟩ ∧
        before = head ++ woven Markers.standard.token front ∧
          rest = g ++ woven Markers.standard.token more := by
  obtain ⟨front, digits, gap, more, htail, hbefore, hafter⟩ := exists_of_mem_placesFrom hp
  have hsame : Behind .standard (woven Markers.standard.token more)
    (woven Markers.standard.token more) := behind_woven rfl rfl
  have hsign : '%' ∉ blanks := fun hmem => absurd (hblanks.blank _ hmem) (by decide)
  obtain ⟨g, rfl, hrest⟩ := hsame.append_of_not_mem hsign hafter.symm
  refine ⟨_, front, digits, g, more, ?_, hbefore, hrest⟩
  rw [← htail]

section Exchange

variable {head : List Char}
  (hcut : Markers.standard.cut s = ⟨head, front ++ (digits, blanks ++ gap) :: more⟩)
include hcut

theorem cut_exchange (hblanks' : Blanks blanks') :
    Markers.standard.cut
        (head ++ woven Markers.standard.token (front ++ (digits, blanks' ++ gap) :: more)) =
      ⟨head, front ++ (digits, blanks' ++ gap) :: more⟩ := by
  have hapart := Markers.standard.rigid_lexeme.apart_cut s
  rw [show Markers.standard.lexeme.cut s = _ from hcut] at hapart
  refine Markers.standard.rigid_lexeme.cut_woven (apart_exchange hapart fun hs => ?_)
  exact silent_blanks_append hblanks'.blank (hs.of_suffix (List.suffix_append blanks gap))

theorem settledText_exchange (hblanks : Blanks blanks) (hblanks' : Blanks blanks')
    (hrest : Attached (head ++ woven Markers.standard.token front)
      (gap ++ woven Markers.standard.token more)) :
    settledText .standard Rule.table
        (head ++ woven Markers.standard.token (front ++ (digits, blanks' ++ gap) :: more)) =
      settledText .standard Rule.table s := by
  rw [settledText_eq, settledText_eq, cut_exchange hcut hblanks', hcut,
    settled_exchange hblanks' hblanks hrest]

end Exchange

/-- Behind a token whatever blanks stand before a percent sign, a unit or the block of an at-rule
may be exchanged for other blanks, and the style sheet is restored to the same text. -/
theorem restoreText_exchangedBlanks
    (hs : Formless (before ++ (Markers.standard.token digits ++ (blanks ++ rest))))
    (hp : ⟨before, blanks ++ rest⟩ ∈ places .standard
      (before ++ (Markers.standard.token digits ++ (blanks ++ rest))))
    (hblanks : Blanks blanks) (hblanks' : Blanks blanks') (hrest : Attached before rest) :
    ∃ out,
      restoreText .standard (before ++ (Markers.standard.token digits ++ (blanks ++ rest))) =
        .ok out ∧
      restoreText .standard (before ++ (Markers.standard.token digits ++ (blanks' ++ rest))) =
        .ok out := by
  have hs' : Formless (before ++ (Markers.standard.token digits ++ (blanks' ++ rest))) := by
    rw [← List.append_assoc] at hs ⊢
    exact (formless_append_blanks_iff hblanks').2 ((formless_append_blanks_iff hblanks).1 hs)
  obtain ⟨head, front, digits', g, more, hcut, rfl, rfl⟩ := exists_cut_of_mem_places hp hblanks
  -- The token at the place is the one that is written there.
  have htoken : Markers.standard.token digits' = Markers.standard.token digits := by
    have hweave := Markers.standard.lexeme.weave_cut (head ++ woven Markers.standard.token front ++
      (Markers.standard.token digits ++ (blanks ++ (g ++ woven Markers.standard.token more))))
    rw [show Markers.standard.lexeme.cut _ = _ from hcut, Cut.weave_eq, woven_append, woven_cons]
      at hweave
    simpa using hweave
  have htext : head ++ woven Markers.standard.token front ++
      (Markers.standard.token digits ++ (blanks' ++ (g ++ woven Markers.standard.token more))) =
        head ++ woven Markers.standard.token (front ++ (digits', blanks' ++ g) :: more) := by
    rw [woven_append, woven_cons, htoken]
    simp
  have hsame := settledText_exchange hcut hblanks hblanks' hrest
  rw [htext] at hs' ⊢
  refine ⟨_, restoreText_of_formless hs Rule.table, ?_⟩
  rw [← hsame]
  exact restoreText_of_formless hs' Rule.table

/-- The text before the second token of an at-rule, which is in the middle of a value. -/
def mediaStart : List Char :=
  "@media (a:%%styled-jsx-placeholder-1%% px) and (b:".toList

def mediaEnd : List Char :=
  "px) %%styled-jsx-placeholder-3%%\t\x7b\x7d".toList

theorem restoreText_exchangedBlanks_media :
    Formless (mediaStart ++ (Markers.standard.token ['2'] ++ (['\n', ' '] ++ mediaEnd))) ∧
      ⟨mediaStart, ['\n', ' '] ++ mediaEnd⟩ ∈ places .standard
        (mediaStart ++ (Markers.standard.token ['2'] ++ (['\n', ' '] ++ mediaEnd))) ∧
      Blanks ['\n', ' '] ∧ Blanks ['\t'] ∧ Attached mediaStart mediaEnd ∧
      ∃ out,
        restoreText .standard
            (mediaStart ++ (Markers.standard.token ['2'] ++ (['\n', ' '] ++ mediaEnd))) =
          .ok out ∧
        restoreText .standard
            (mediaStart ++ (Markers.standard.token ['2'] ++ (['\t'] ++ mediaEnd))) =
          .ok out := by
  have hs : Formless
      (mediaStart ++ (Markers.standard.token ['2'] ++ (['\n', ' '] ++ mediaEnd))) :=
    formless_of_not_mem (by decide +kernel)
  have hp : (⟨mediaStart, ['\n', ' '] ++ mediaEnd⟩ : Place) ∈ places .standard
      (mediaStart ++ (Markers.standard.token ['2'] ++ (['\n', ' '] ++ mediaEnd))) := by
    decide +kernel
  have hblanks : Blanks ['\n', ' '] := ⟨by simp, by simp [isStyleBlank]⟩
  have hblanks' : Blanks ['\t'] := ⟨by simp, by simp [isStyleBlank]⟩
  have hrest : Attached mediaStart mediaEnd := .unit (by decide +kernel)
  exact ⟨hs, hp, hblanks, hblanks', hrest,
    restoreText_exchangedBlanks hs hp hblanks hblanks' hrest⟩

end Stencil.Adjacency
