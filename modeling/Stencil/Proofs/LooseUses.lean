import Stencil.Proofs.UseContexts

/-!
# Use rules that stay

Rewriting looks at the beginnings of lines. A use rule there is written as an import or refused, so
no line of the result begins with one. A use rule behind another statement, or behind a brace, on
one line with it is passed over: the use rules of the result are the ones that no line of the text
began with.
-/

namespace Stencil.Source

open Stencil.Text Stencil.Token

/-! ### Use words -/

/-- Whether the word of a use rule stands in front of a text, and not a longer one. -/
def startsUse (s : List Char) : Bool :=
  match after? useWord s with
  | some rest => !startsWord rest
  | none => false

/-- Whether the word stands at some place where `p` holds, in a text behind `x`. -/
def usesWhere (p : Context → Bool) : Context → List Char → Bool
  | _, [] => false
  | x, c :: s => (p x && startsUse (c :: s)) || usesWhere p (x.next c) s

theorem startsUse_iff {s : List Char} :
    startsUse s = true ↔ ∃ rest, s = useWord ++ rest ∧ startsWord rest = false := by
  unfold startsUse
  constructor
  · intro h
    split at h
    · next rest hrest => exact ⟨rest, after?_eq_some_iff.1 hrest, by simpa using h⟩
    · exact absurd h (by simp)
  · rintro ⟨rest, rfl, hrest⟩
    rw [after?_append]
    simp [hrest]

theorem startsUse_cons_of_ne {c : Char} (hc : c ≠ '@') (s : List Char) :
    startsUse (c :: s) = false := by
  simp [startsUse, useWord, after?, Ne.symm hc]

variable {p : Context → Bool} {x : Context} {c : Char}

/-- The places that are found are the places where the word stands. -/
theorem usesWhere_iff {s : List Char} : usesWhere p x s = true ↔ ∃ before rest,
    s = before ++ (useWord ++ rest) ∧ startsWord rest = false ∧ p (x.behind before) = true := by
  induction s generalizing x with
  | nil => simp [usesWhere, useWord]
  | cons d s ih =>
    rw [usesWhere, Bool.or_eq_true, Bool.and_eq_true, startsUse_iff, ih]
    constructor
    · rintro (⟨hp, rest, hs, hrest⟩ | ⟨before, rest, rfl, hrest, hp⟩)
      · exact ⟨[], rest, hs, hrest, hp⟩
      · exact ⟨d :: before, rest, rfl, hrest, hp⟩
    · rintro ⟨before, rest, hs, hrest, hp⟩
      cases before with
      | nil => exact .inl ⟨hp, rest, hs, hrest⟩
      | cons e before =>
        obtain ⟨rfl, rfl⟩ := List.cons.inj hs
        exact .inr ⟨before, rest, rfl, hrest, hp⟩

theorem usesWhere_append_of_ne {s : List Char} (hs : '@' ∉ s) (t : List Char) :
    usesWhere p x (s ++ t) = usesWhere p (x.behind s) t := by
  induction s generalizing x with
  | nil => rfl
  | cons d s ih =>
    obtain ⟨hd, hs⟩ := not_or.1 (mt List.mem_cons.2 hs)
    rw [List.cons_append, usesWhere, startsUse_cons_of_ne (Ne.symm hd), Bool.and_false,
      Bool.false_or, ih hs, Context.behind_cons]

theorem startsUse_append_cons (hc : c ∉ useWord) (hword : isWord c = false) {s : List Char}
    (t : List Char) : startsUse (s ++ c :: t) = startsUse s := by
  rw [Bool.eq_iff_iff, startsUse_iff, startsUse_iff]
  constructor
  · rintro ⟨rest, hs, hrest⟩
    rcases List.append_eq_append_iff.1 hs with ⟨y, hy, hz⟩ | ⟨y, rfl, hz⟩
    · cases y with
      | nil => exact ⟨[], by simpa using hy.symm, rfl⟩
      | cons d y =>
        obtain ⟨rfl, -⟩ := List.cons.inj hz
        exact absurd (hy ▸ by simp) hc
    · refine ⟨y, rfl, ?_⟩
      cases y with
      | nil => rfl
      | cons d y =>
        rw [hz] at hrest
        exact hrest
  · rintro ⟨rest, rfl, hrest⟩
    refine ⟨rest ++ c :: t, List.append_assoc _ _ _, ?_⟩
    cases rest with
    | nil => exact hword
    | cons d rest => exact hrest

theorem usesWhere_append_cons (hc : c ∉ useWord) (hword : isWord c = false) (s t : List Char) :
    usesWhere p x (s ++ c :: t) =
      (usesWhere p x s || usesWhere p ((x.behind s).next c) t) := by
  induction s generalizing x with
  | nil =>
    have hat : c ≠ '@' := by
      rintro rfl
      exact hc (by simp [useWord])
    rw [List.nil_append, usesWhere, usesWhere, startsUse_cons_of_ne hat, Bool.and_false]
    rfl
  | cons d s ih =>
    have hstarts : startsUse (d :: (s ++ c :: t)) = startsUse (d :: s) :=
      startsUse_append_cons hc hword (s := d :: s) t
    rw [List.cons_append, usesWhere, ih, hstarts, usesWhere, Bool.or_assoc, Context.behind_cons]

/-! ### One line -/

/-- What is left out of the search: the beginning of a line. -/
def SkipsLines (p : Context → Bool) : Prop :=
  ∀ x : Context, x.beginsLine = true → p x = false

section Line

variable {line line' w s t : List Char}

theorem beginsLine_behind_indent (hx : x.beginsLine = true) (hs : ∀ c ∈ s, isIndent c = true) :
    (x.behind s).beginsLine = true := by
  induction s generalizing x with
  | nil => exact hx
  | cons c s ih =>
    obtain ⟨hc, hs⟩ := List.forall_mem_cons.1 hs
    refine ih ?_ hs
    simp [Context.next, hx, hc]

theorem not_mem_of_isQuiet {s : List Char} (hs : ∀ c ∈ s, isQuiet c = true) : '@' ∉ s := by
  intro hmem
  exact absurd (hs _ hmem) (by decide)

/-- Behind a word that begins a line it makes no difference which word it was. -/
theorem usesWhere_at_word (hp : SkipsLines p) (hx : x.beginsLine = true)
    (hw : ∀ c ∈ w, isQuiet c = true) (t : List Char) :
    usesWhere p x ('@' :: (w ++ t)) = usesWhere p (x.next '@') t := by
  have hinside := Context.inside_next (.inl rfl) x
  rw [usesWhere, hp x hx, Bool.false_and, Bool.false_or,
    usesWhere_append_of_ne (not_mem_of_isQuiet hw), hinside.behind_of_isQuiet hw]

theorem behind_at_word (x : Context) (hw : ∀ c ∈ w, isQuiet c = true) (t : List Char) :
    x.behind ('@' :: (w ++ t)) = (x.next '@').behind t := by
  have hinside := Context.inside_next (.inl rfl) x
  rw [Context.behind_cons, Context.behind_append, hinside.behind_of_isQuiet hw]

theorem usesWhere_star (hx : x.Inside) (hs : ∀ c ∈ s, isStar c = true)
    (ht : t = [] ∨ ∃ more, t = ';' :: more) :
    usesWhere p x (s ++ t) = usesWhere p x t := by
  have hclean : '@' ∉ s := by
    intro hmem
    exact absurd (hs _ hmem) (by decide)
  have htrails := Context.Trails.behind hx (.inl rfl) hs
  rw [usesWhere_append_of_ne hclean]
  rcases ht with rfl | ⟨more, rfl⟩
  · rfl
  · have hne : (';' : Char) ≠ '@' := by decide
    rw [usesWhere, usesWhere, startsUse_cons_of_ne hne, Bool.and_false, Bool.and_false,
      htrails.next_eq (by decide) (by decide)]

theorem next_behind_star (hx : x.Inside) (hs : ∀ c ∈ s, isStar c = true)
    (ht : t = [] ∨ ∃ more, t = ';' :: more) :
    ((x.behind (s ++ t)).next '\n') = (x.behind t).next '\n' := by
  have htrails := Context.Trails.behind hx (.inl rfl) hs
  rw [Context.behind_append]
  rcases ht with rfl | ⟨more, rfl⟩
  · exact htrails.next_eq (by decide) (by decide)
  · rw [Context.behind_cons, Context.behind_cons, htrails.next_eq (by decide) (by decide)]

/-- A line with a plain use rule and the line with the import are the same indentation, a word
behind an at-sign, what is loaded, and the same rest; the star is gone. -/
theorem exists_words_of_read? {u : PlainUse} (h : PlainUse.read? line = some u) :
    ∃ old new q inner star, (∀ c ∈ old, isQuiet c = true) ∧ (∀ c ∈ new, isQuiet c = true) ∧
      (q = '"' ∨ q = '\'') ∧ (∀ c ∈ star, isStar c = true) ∧
      line = u.indent ++ '@' :: (old ++ (q :: inner ++ q :: (star ++ u.rest))) ∧
      u.asImport = u.indent ++ '@' :: (new ++ (q :: inner ++ q :: u.rest)) := by
  obtain ⟨gap, q, inner, star, -, hgap, hq, hurl, hstar, -, hline⟩ := PlainUse.read?_eq_some h
  refine ⟨['u', 's', 'e'] ++ gap, ['i', 'm', 'p', 'o', 'r', 't', ' '], q, inner, star, ?_,
    List.all_eq_true.1 rfl, hq, hstar, ?_, ?_⟩
  · rw [List.forall_mem_append]
    exact ⟨List.all_eq_true.1 rfl, fun c hc => isQuiet_of_isIndent (hgap c hc)⟩
  · rw [hline, hurl, useWord]
    simp
  · rw [PlainUse.asImport, hurl, importWord]
    simp

/-- Rewriting a line changes nothing about the uses behind its beginning, and nothing about the
lines below. -/
theorem usesWhere_rewriteLine (hp : SkipsLines p) (hx : x.beginsLine = true)
    (h : rewriteLine line = some line') :
    usesWhere p x line' = usesWhere p x line ∧
      (x.behind line').next '\n' = (x.behind line).next '\n' := by
  rcases rewriteLine_eq_some h with ⟨rfl, -⟩ | ⟨u, hu, rfl⟩
  · exact ⟨rfl, rfl⟩
  · obtain ⟨-, -, -, -, hindent, -, -, -, -, hrest, -⟩ := PlainUse.read?_eq_some hu
    obtain ⟨old, new, q, inner, star, hold, hnew, hq, hstar, hline, himport⟩ :=
      exists_words_of_read? hu
    have hclean : '@' ∉ u.indent := by
      intro hmem
      exact absurd (hindent _ hmem) (by decide)
    have hquote : q ∉ useWord ∧ isWord q = false := by
      rcases hq with rfl | rfl <;> decide +kernel
    have hbegins := beginsLine_behind_indent hx hindent
    have hinside := Context.inside_next (.inr hq)
      (((x.behind u.indent).next '@').behind (q :: inner))
    have hbehind (t : List Char) : ((x.behind u.indent).next '@').behind (q :: inner ++ q :: t) =
        ((((x.behind u.indent).next '@').behind (q :: inner)).next q).behind t :=
      Context.behind_append _ _ _
    rw [hline, himport]
    constructor
    · rw [usesWhere_append_of_ne hclean, usesWhere_append_of_ne hclean,
        usesWhere_at_word hp hbegins hold, usesWhere_at_word hp hbegins hnew,
        usesWhere_append_cons hquote.1 hquote.2, usesWhere_append_cons hquote.1 hquote.2,
        usesWhere_star hinside hstar hrest]
    · rw [Context.behind_append, Context.behind_append, behind_at_word _ hold,
        behind_at_word _ hnew, hbehind, hbehind, next_behind_star hinside hstar hrest]

end Line

/-! ### All lines -/

section Lines

variable {s out line line' : List Char} {lines lines' : List (List Char)}

theorem usesWhere_joinNewlines_cons (h : lines ≠ []) :
    usesWhere p x (joinNewlines (line :: lines)) =
      (usesWhere p x line || usesWhere p ((x.behind line).next '\n') (joinNewlines lines)) := by
  have hword : '\n' ∉ useWord := by decide
  have hfeed : isWord '\n' = false := by decide +kernel
  rw [joinNewlines_cons h, usesWhere_append_cons hword hfeed]

theorem usesWhere_rewritten (hp : SkipsLines p)
    (h : List.Forall₂ (fun line line' => rewriteLine line = some line') lines lines')
    (hx : x.beginsLine = true) :
    usesWhere p x (joinNewlines lines') = usesWhere p x (joinNewlines lines) := by
  induction h generalizing x with
  | nil => rfl
  | @cons line line' lines lines' hline hmore ih =>
    obtain ⟨hsame, hnext⟩ := usesWhere_rewriteLine hp hx hline
    by_cases hnil : lines = []
    · subst hnil
      obtain rfl : lines' = [] := by simpa using hmore
      rw [joinNewlines_singleton, joinNewlines_singleton, hsame]
    · have hnil' : lines' ≠ [] := by
        rintro rfl
        exact hnil (by simpa using hmore)
      calc
        usesWhere p x (joinNewlines (line' :: lines')) = (usesWhere p x line' ||
            usesWhere p ((x.behind line').next '\n') (joinNewlines lines')) :=
          usesWhere_joinNewlines_cons hnil'
        _ = (usesWhere p x line ||
            usesWhere p ((x.behind line).next '\n') (joinNewlines lines)) := by
          rw [hsame, hnext, ih rfl]
        _ = usesWhere p x (joinNewlines (line :: lines)) :=
          (usesWhere_joinNewlines_cons hnil).symm

theorem usesWhere_beginsLine_of_not (hx : x.beginsLine = false) (hs : '\n' ∉ s) :
    usesWhere Context.beginsLine x s = false := by
  induction s generalizing x with
  | nil => rfl
  | cons c s ih =>
    obtain ⟨hc, hs⟩ := not_or.1 (mt List.mem_cons.2 hs)
    rw [usesWhere, hx, Bool.false_and, Bool.false_or]
    refine ih ?_ hs
    simp [Context.next, hx, Ne.symm hc]

theorem beginsUse_eq (line : List Char) :
    beginsUse line = startsUse (line.dropWhile isIndent) := rfl

theorem usesWhere_beginsLine (hx : x.beginsLine = true) (hs : '\n' ∉ s) :
    usesWhere Context.beginsLine x s = beginsUse s := by
  induction s generalizing x with
  | nil => rfl
  | cons c s ih =>
    obtain ⟨hc, hs⟩ := not_or.1 (mt List.mem_cons.2 hs)
    rw [usesWhere, hx, Bool.true_and]
    by_cases hindent : isIndent c = true
    · have hat : c ≠ '@' := by
        rintro rfl
        exact absurd hindent (by decide)
      have hnext : (x.next c).beginsLine = true := by simp [Context.next, hx, hindent]
      rw [startsUse_cons_of_ne hat, Bool.false_or, ih hnext hs, beginsUse_eq, beginsUse_eq,
        List.dropWhile_cons_of_pos hindent]
    · have hnext : (x.next c).beginsLine = false := by
        simp [Context.next, Ne.symm hc, hindent]
      rw [usesWhere_beginsLine_of_not hnext hs, Bool.or_false, beginsUse_eq,
        List.dropWhile_cons_of_neg hindent]

theorem beginsUse_of_rewriteLine (h : rewriteLine line = some line') : beginsUse line' = false := by
  rcases rewriteLine_eq_some h with ⟨rfl, hbegins⟩ | ⟨u, hu, rfl⟩
  · exact hbegins
  · obtain ⟨-, -, -, -, hindent, -⟩ := PlainUse.read?_eq_some hu
    have hdrop : u.asImport.dropWhile isIndent = importWord ++ u.url ++ u.rest := by
      rw [PlainUse.asImport, List.append_assoc, List.append_assoc,
        List.dropWhile_append_of_pos hindent, importWord]
      simp [isIndent]
    rw [beginsUse, hdrop]
    simp [useWord, importWord, after?]

theorem newline_not_mem_of_rewriteLine (h : rewriteLine line = some line') (hline : '\n' ∉ line) :
    '\n' ∉ line' := by
  rcases rewriteLine_eq_some h with ⟨rfl, -⟩ | ⟨u, hu, rfl⟩
  · exact hline
  · obtain ⟨gap, q, inner, star, -, -, -, -, -, -, rfl⟩ := PlainUse.read?_eq_some hu
    simp only [List.mem_append, not_or] at hline
    simp only [PlainUse.asImport, List.mem_append, not_or]
    exact ⟨⟨⟨hline.1.1.1.1.1, by decide⟩, hline.1.1.2⟩, hline.2⟩

theorem usesWhere_beginsLine_joinNewlines
    (h : ∀ line ∈ lines, '\n' ∉ line ∧ beginsUse line = false) (hx : x.beginsLine = true) :
    usesWhere Context.beginsLine x (joinNewlines lines) = false := by
  induction lines generalizing x with
  | nil => rfl
  | cons line lines ih =>
    obtain ⟨⟨hclean, hbegins⟩, hlines⟩ := List.forall_mem_cons.1 h
    by_cases hnil : lines = []
    · subst hnil
      rw [joinNewlines_singleton, usesWhere_beginsLine hx hclean, hbegins]
    · rw [usesWhere_joinNewlines_cons hnil, usesWhere_beginsLine hx hclean, hbegins,
        ih hlines rfl, Bool.false_or]

end Lines

end Stencil.Source
