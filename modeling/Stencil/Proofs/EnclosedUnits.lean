import Stencil.Proofs.CanonicalAdjacency
import Stencil.Proofs.SelectorBlanks

/-!
# Units in parentheses

In front of the block of an at-rule a unit belongs to its token where a parenthesis encloses both.
The rule for units looks for the next parenthesis of any kind and does not count: it joins the unit
if that one closes. So a nested pair behind the unit hides the parenthesis that closes the enclosing
one, and the blanks in front of the unit stay: `restoreText_enclosedUnits`.
-/

namespace Stencil.Adjacency

open Stencil.Text Stencil.Token Stencil.Shield

/-- The text in front of the parenthesis that closes the enclosing one, and the text behind it.
`depth` nested parentheses are open here. All of them have to be closed in the same statement. -/
def toClosing : Nat → List Char → Option (List Char × List Char)
  | _, [] => none
  | depth, c :: s =>
    if isBoundary c then none
    else if c = '(' then (toClosing (depth + 1) s).map fun q => (c :: q.1, q.2)
    else if c = ')' then
      if depth = 0 then some ([], s) else (toClosing (depth - 1) s).map fun q => (c :: q.1, q.2)
    else (toClosing depth s).map fun q => (c :: q.1, q.2)

/-- Whether a text goes on with blanks and then a unit, which is all the letters that stand there
and no part of a longer name. -/
structure SpacedUnit (after blanks unit tail : List Char) : Prop where
  after_eq : after = blanks ++ (unit ++ tail)
  blank : Blanks blanks
  letters : ∀ c ∈ unit, isLetter c = true
  known : isUnit unit = true
  ends : continuesName tail = false

/-- What becomes of the blanks in front of a unit if a parenthesis closes behind it: they stay if
another one is opened before and a block follows, and else they are removed. -/
def EnclosedUnitJoined (p p' : Place) : Prop :=
  ∀ blanks unit tail inner rest, SpacedUnit p.after blanks unit tail →
    toClosing 0 tail = some (inner, rest) →
      ∃ tail', p'.after =
        (if '(' ∈ inner ∧ opensBlock rest = true then blanks else []) ++ (unit ++ tail')

variable {b b' gap s inner rest rest' css out after blanks unit tail : List Char} {depth : Nat}

/-! ### The closing parenthesis -/

theorem toClosing_eq_some (h : toClosing depth s = some (inner, rest)) :
    s = inner ++ ')' :: rest ∧ ∀ c ∈ inner, isBoundary c = false := by
  induction s generalizing depth inner with
  | nil => simp [toClosing] at h
  | cons c s ih =>
    have hmore {n : Nat} (hc : isBoundary c = false)
        (hn : (toClosing n s).map (fun q => (c :: q.1, q.2)) = some (inner, rest)) :
        c :: s = inner ++ ')' :: rest ∧ ∀ d ∈ inner, isBoundary d = false := by
      obtain ⟨q, hq, he⟩ := Option.map_eq_some_iff.1 hn
      obtain ⟨rfl, rfl⟩ := Prod.mk.inj he
      obtain ⟨hs, hfree⟩ := ih hq
      exact ⟨congrArg (c :: ·) hs, List.forall_mem_cons.2 ⟨hc, hfree⟩⟩
    rw [toClosing] at h
    split_ifs at h with hc hopen hclose hdepth
    · exact hmore (by simpa using hc) h
    · obtain ⟨rfl, rfl⟩ := Prod.mk.inj (Option.some.inj h)
      simp [hclose]
    · exact hmore (by simpa using hc) h
    · exact hmore (by simpa using hc) h

/-- The next bracket is the parenthesis that closes the enclosing one exactly if no other one is
opened before. -/
theorem meets_toClosing (h : toClosing 0 s = some (inner, rest)) :
    meets isBracket ')' s = decide ('(' ∉ inner) := by
  induction s generalizing inner with
  | nil => simp [toClosing] at h
  | cons c s ih =>
    rw [toClosing] at h
    split_ifs at h with hc hopen hclose hdepth
    · obtain ⟨q, -, he⟩ := Option.map_eq_some_iff.1 h
      obtain ⟨rfl, -⟩ := Prod.mk.inj he
      subst hopen
      simp [meets, isBracket]
    · obtain ⟨rfl, -⟩ := Prod.mk.inj (Option.some.inj h)
      subst hclose
      simp [meets, isBracket]
    · exact absurd rfl hdepth
    · obtain ⟨q, hq, he⟩ := Option.map_eq_some_iff.1 h
      obtain ⟨rfl, rfl⟩ := Prod.mk.inj he
      have hbracket : isBracket c = false := by simp [isBracket, hc, hopen, hclose]
      have hskip : meets isBracket ')' (c :: s) = meets isBracket ')' s := by
        simp [meets, hbracket]
      rw [hskip, ih hq]
      simp [Ne.symm hopen]

theorem opensBlock_toClosing (h : toClosing depth s = some (inner, rest)) :
    opensBlock s = opensBlock rest := by
  obtain ⟨rfl, hfree⟩ := toClosing_eq_some h
  have hclosing : ∀ c ∈ inner ++ [')'], isBoundary c = false :=
    List.forall_mem_append.2 ⟨hfree, by simp [isBoundary]⟩
  have hsplit : inner ++ ')' :: rest = (inner ++ [')']) ++ rest := by simp
  rw [hsplit, opensBlock_append hclosing]

/-! ### Units in front of it -/

theorem isWord_of_isLetter {c : Char} (h : isLetter c = true) : isWord c = true := by
  apply isWord_of_isAlphanum
  delta Char.isAlphanum Char.isAlpha Char.isUpper Char.isLower
  simp only [isLetter, Bool.or_eq_true, Bool.and_eq_true, decide_eq_true_eq] at h
  simp only [Bool.or_eq_true, Bool.and_eq_true, decide_eq_true_eq, ge_iff_le]
  rcases h with hlower | hupper
  · exact .inl (.inr hlower)
  · exact .inl (.inl hupper)

theorem not_isLetter_of_not_continuesName (h : continuesName tail = false) :
    ∀ c, tail.head? = some c → isLetter c = false := by
  intro c hc
  obtain ⟨t, rfl⟩ := List.head?_eq_some_iff.1 hc
  cases hletter : isLetter c with
  | false => rfl
  | true => simp [continuesName, isWord_of_isLetter hletter] at h

theorem SpacedUnit.exists_cons (h : SpacedUnit after blanks unit tail) :
    ∃ c u, unit = c :: u ∧ isLetter c = true := by
  have hne : unit ≠ [] := by
    rintro rfl
    exact absurd h.known (by decide +kernel)
  obtain ⟨c, u, rfl⟩ := List.exists_cons_of_ne_nil hne
  exact ⟨c, u, rfl, h.letters c List.mem_cons_self⟩

/-- The full table joins the unit if it ends a value, and else it changes nothing. -/
theorem SpacedUnit.chosen_eq (h : SpacedUnit after blanks unit tail) (b : List Char) :
    chosen .standard Rule.table ⟨b, after⟩ = if endsValue tail then .join else .keep := by
  obtain ⟨c, u, hunit, hletter⟩ := h.exists_cons
  have hsign := ne_percent_of_isLetter hletter
  have hbrace : c ≠ '{' := by
    rintro rfl
    exact absurd hletter (by decide)
  have hstarts : startsUnit (unit ++ tail) = endsValue tail := by
    rw [startsUnit_append h.letters (not_isLetter_of_not_continuesName h.ends), h.known, h.ends]
    rfl
  rw [hunit] at hstarts
  rw [h.after_eq, hunit, List.cons_append,
    h.blank.chosen_table_append (not_isStyleBlank_of_isLetter hletter), ← List.cons_append, hstarts]
  simp [hsign, hbrace]

theorem SpacedUnit.exists_gap (hunit : SpacedUnit (gap ++ rest) blanks unit tail)
    (h : Behind .standard rest rest') : ∃ g, gap = blanks ++ (unit ++ g) := by
  have hsign : '%' ∉ blanks ++ unit := by
    intro hmem
    rcases List.mem_append.1 hmem with hmem | hmem
    · exact absurd (hunit.blank.blank _ hmem) (by decide)
    · exact absurd (hunit.letters _ hmem) (by decide)
  have he := hunit.after_eq
  rw [← List.append_assoc] at he
  obtain ⟨g, hg, -⟩ := h.append_of_not_mem hsign he
  exact ⟨g, by rw [hg, List.append_assoc]⟩

theorem enclosedUnitJoined_settled (h : Behind .standard rest rest') :
    EnclosedUnitJoined ⟨b, gap ++ rest⟩
      ⟨b', (chosen .standard Rule.table ⟨b, gap ++ rest⟩).apply gap ++ rest'⟩ := by
  intro blanks unit tail inner more hunit hclosing
  obtain ⟨g, rfl⟩ := hunit.exists_gap h
  refine ⟨g ++ rest', ?_⟩
  have hends : endsValue tail = !decide ('(' ∈ inner ∧ opensBlock more = true) := by
    rw [endsValue, meets_toClosing hclosing, opensBlock_toClosing hclosing]
    by_cases hinner : '(' ∈ inner <;> simp [hinner]
  rw [hunit.chosen_eq b, hends]
  by_cases hkept : '(' ∈ inner ∧ opensBlock more = true
  · simp [hkept]
  · obtain ⟨c, u, rfl, hletter⟩ := hunit.exists_cons
    simp [hkept, List.dropWhile_append_of_pos hunit.blank.blank,
      not_isStyleBlank_of_isLetter hletter]

/-- In a restored style sheet a unit behind a token and blanks, with a parenthesis that encloses it
and is closed in the same statement, is joined to the token, unless a nested parenthesis is opened
behind the unit and a block follows: then the blanks stay. So it is in an at-rule as anywhere. -/
theorem restoreText_enclosedUnits (h : restoreText .standard css = .ok out) :
    ∃ s, unshield .standard css = .ok s ∧
      List.Forall₂ EnclosedUnitJoined (places .standard s) (places .standard out) := by
  obtain ⟨s, hs, rfl⟩ := restoreText_eq_ok_iff.1 h
  refine ⟨s, hs, ?_⟩
  rw [places_settledText, places]
  exact forall₂_places_settled (fun _ h => enclosedUnitJoined_settled h) rfl

/-- An at-rule with a unit in front of the closing parenthesis and one in front of a nested pair,
and a value with a nested pair. -/
def widthSheet : List Char :=
  ("@media (a: __sjx_ph_1__ px) and (b: __sjx_ph_2__\n EM + (1px))\x7b" ++
    "a\x7bw:calc(__sjx_ph_3__ px + (1px))\x7d\x7d").toList

def restoredWidthSheet : List Char :=
  ("@media (a: %%styled-jsx-placeholder-1%%px) and (b: %%styled-jsx-placeholder-2%%\n EM " ++
    "+ (1px))\x7ba\x7bw:calc(%%styled-jsx-placeholder-3%%px + (1px))\x7d\x7d").toList

theorem restoreText_enclosedUnits_widthSheet :
    restoreText .standard widthSheet = .ok restoredWidthSheet ∧
      ∃ s, unshield .standard widthSheet = .ok s ∧
        List.Forall₂ EnclosedUnitJoined (places .standard s)
          (places .standard restoredWidthSheet) := by
  have h : restoreText .standard widthSheet = .ok restoredWidthSheet := by decide +kernel
  exact ⟨h, restoreText_enclosedUnits h⟩

/-- An at-rule with a nested pair between a unit and the parenthesis that closes the enclosing
one. -/
def nestedWidthSheet : List Char :=
  "@media (width: %%styled-jsx-placeholder-1%% px + calc(1px)) \x7b\x7d".toList

/-- The blanks in front of that unit stay, although the token lies in a prelude and in a parenthesis
that is opened and closed there. -/
theorem restoreText_enclosedUnits_nestedPair :
    ∃ p, unshield .standard nestedWidthSheet = .ok nestedWidthSheet ∧
      places .standard nestedWidthSheet = [p] ∧
      startsWith ['@'] p.head = true ∧ Rule.inParentheses p.head = true ∧
      SpacedUnit p.after [' '] "px".toList " + calc(1px)) \x7b\x7d".toList ∧
      toClosing 0 " + calc(1px)) \x7b\x7d".toList =
        some (" + calc(1px)".toList, " \x7b\x7d".toList) ∧
      restoreText .standard nestedWidthSheet = .ok nestedWidthSheet := by
  have hletters : "px".toList.all isLetter = true := by decide +kernel
  have hunit : SpacedUnit " px + calc(1px)) \x7b\x7d".toList [' '] "px".toList
      " + calc(1px)) \x7b\x7d".toList :=
    ⟨by decide +kernel, ⟨by simp, by simp [isStyleBlank]⟩, List.all_eq_true.1 hletters,
      by decide +kernel, by decide +kernel⟩
  exact ⟨⟨"@media (width: ".toList, " px + calc(1px)) \x7b\x7d".toList⟩, by decide +kernel,
    by decide +kernel, by decide +kernel, by decide +kernel, hunit, by decide +kernel,
    by decide +kernel⟩

end Stencil.Adjacency
