import Stencil.Proofs.EnclosedUnits
import Stencil.Proofs.Patterns

/-!
# The search for units

The rule for units may be put as three searches, each from the place where the one before it ended:
for blanks, for letters that no name goes on behind, and for the end of a value. A search goes back
on what it took, and the last one also accepts the end of the text in front of a final line feed.
None of this lets it find a shorter unit or another end, so the rule is one reading of the text from
left to right: `unitSuffix_search`.
-/

namespace Stencil.Adjacency

open Stencil.Text Stencil.Token

/-- What a rule says about a span of a text: up to where the text behind the span is replaced, and
by what. -/
def Rule.answer (r : Rule) (m : Markers) (text : List Char) (start stop : Nat) :
    Option (Nat × List Char) :=
  let p : Place := ⟨text.take start, text.drop stop⟩
  (r.act m p).map fun w => (stop + w.removed p.after, w.inserted)

/-! ### The three searches -/

def goesOnName (c : Char) : Bool :=
  isWord c || c == '(' || c == '%' || c == '-'

def endsDeclaration (c : Char) : Bool :=
  c == ';' || c == '}'

def blankRun : Pattern :=
  .atLeastOne isStyleBlank

def bareLetters : Pattern :=
  .andThen (.atLeastOne isLetter) (.notAhead (.one goesOnName))

/-- The rest of a value. Either its declaration ends before a block opens, or a parenthesis closes
before any other bracket. -/
def valueRest : Pattern :=
  .orElse (.andThen (.upTo isBoundary) (.orElse (.one endsDeclaration) .ending))
    (.andThen (.upTo isBracket) (.one (· == ')')))

/-- The blanks in front of a unit, if the three searches find one. -/
def searchBlanks (after : List Char) : Option (List Char) := do
  let (blanks, s) ← blankRun.first? after
  let (letters, rest) ← bareLetters.first? s
  if isUnit letters then
    let _ ← valueRest.first? rest
    return blanks
  else none

/-- The rule for units, as searches behind a span that ends at `stop`. -/
def searchUnit (m : Markers) (text : List Char) (stop : Nat) : Option (Nat × List Char) :=
  if m.opensAt (text.drop stop) then some (stop, [' '])
  else if startsWith ['%'] (text.drop stop) && m.opensAt (text.drop (stop + 1)) then
    some (stop + 1, ['%', ' '])
  else (searchBlanks (text.drop stop)).map fun blanks => (stop + blanks.length, [])

/-! ### One reading -/

/-- Whether a text goes on with blanks and then a unit of a value: all the blanks that stand there,
one at least, then all the letters, in lower case one of the units, then nothing that goes on their
name. Behind them no block opens before the statement ends, or a parenthesis closes before any other
bracket. -/
structure UnitOfValue (after blanks unit rest : List Char) : Prop where
  after_eq : after = blanks ++ (unit ++ rest)
  blanks_ne_nil : blanks ≠ []
  blanks_whole : WholeRun isStyleBlank blanks (unit ++ rest)
  unit_whole : WholeRun isLetter unit rest
  known : unit.map Char.toLower ∈ units
  ends : ∀ c, rest.head? = some c → isWord c = false ∧ c ≠ '(' ∧ c ≠ '%' ∧ c ≠ '-'
  value : rest.find? isBoundary ≠ some '{' ∨ rest.find? isBracket = some ')'

variable {m : Markers} {text after s blanks unit letters rest : List Char} {start stop : Nat}

theorem isUnit_iff : isUnit letters = true ↔ letters.map Char.toLower ∈ units := by
  simp [isUnit]

theorem continuesName_eq_false_iff :
    continuesName rest = false ↔
      ∀ c, rest.head? = some c → isWord c = false ∧ c ≠ '(' ∧ c ≠ '%' ∧ c ≠ '-' := by
  cases rest with
  | nil => simp [continuesName]
  | cons c rest => simp [continuesName, and_assoc]

theorem endsValue_iff :
    endsValue rest = true ↔
      rest.find? isBoundary ≠ some '{' ∨ rest.find? isBracket = some ')' := by
  simp [endsValue, opensBlock, meets]

theorem UnitOfValue.unit_ne_nil (h : UnitOfValue after blanks unit rest) : unit ≠ [] := by
  rintro rfl
  exact absurd h.known (by decide +kernel)

theorem exists_unitOfValue_iff :
    (∃ unit rest, UnitOfValue after blanks unit rest) ↔
      (Rule.space after = blanks ∧ blanks ≠ []) ∧ startsUnit (Rule.beyond after) = true := by
  simp only [startsUnit, Bool.and_eq_true, Bool.not_eq_true', isUnit_iff,
    continuesName_eq_false_iff, endsValue_iff]
  constructor
  · rintro ⟨unit, rest, h⟩
    obtain ⟨hspace, hbeyond⟩ := wholeRun_iff.1 ⟨h.after_eq, h.blanks_whole⟩
    obtain ⟨hletters, hrest⟩ := wholeRun_iff.1 ⟨hbeyond, h.unit_whole⟩
    rw [Rule.beyond, hletters, hrest]
    exact ⟨⟨hspace, h.blanks_ne_nil⟩, ⟨h.known, h.ends⟩, h.value⟩
  · rintro ⟨⟨hspace, hne⟩, ⟨hknown, hends⟩, hvalue⟩
    obtain ⟨hletters, hunit⟩ := wholeRun_iff.2
      ⟨rfl, (rfl : (Rule.beyond after).dropWhile isLetter = _)⟩
    obtain ⟨hafter, hblanks⟩ := wholeRun_iff.2 ⟨hspace, hletters⟩
    exact ⟨_, _, hafter, hne, hblanks, hunit, hknown, hends, hvalue⟩

/-! ### What the searches find -/

theorem matches_goesOnName_iff : (Pattern.one goesOnName).Matches s ↔ continuesName s = true := by
  rw [Pattern.matches_one_iff]
  cases s with
  | nil => simp [continuesName]
  | cons c s => simp [continuesName, goesOnName]

theorem takes_bareLetters_iff :
    bareLetters.Takes letters rest ↔
      letters ≠ [] ∧ (∀ c ∈ letters, isLetter c = true) ∧ continuesName rest = false := by
  rw [bareLetters, Pattern.takes_andThen_notAhead_iff, Pattern.takes_atLeastOne_iff,
    matches_goesOnName_iff, Bool.not_eq_true, and_assoc]

/-- A letter goes on a name, so no run of letters but the whole one can be taken. -/
theorem wholeRun_of_takes_bareLetters (h : bareLetters.Takes letters rest) :
    WholeRun isLetter letters rest := by
  obtain ⟨-, hletters, hname⟩ := takes_bareLetters_iff.1 h
  exact ⟨hletters, not_isLetter_of_not_continuesName hname⟩

theorem first?_bareLetters_iff :
    bareLetters.first? s = some (letters, rest) ↔
      s = letters ++ rest ∧ bareLetters.Takes letters rest := by
  apply Pattern.first?_eq_some_iff_of_unique
  intro t r u v ht hu htakes hutakes
  have ht' := wholeRun_iff.1 ⟨ht, wholeRun_of_takes_bareLetters htakes⟩
  have hu' := wholeRun_iff.1 ⟨hu, wholeRun_of_takes_bareLetters hutakes⟩
  exact ht'.1.symm.trans hu'.1

/-- However far the search goes back, a value can only end at the first boundary, at the end of the
text or at the first bracket. -/
theorem matches_valueRest_iff : valueRest.Matches s ↔ endsValue s = true := by
  have hends : ∀ c, endsDeclaration c = true → isBoundary c = true := by
    simp +contextual [endsDeclaration, isBoundary, or_imp]
  have hcloses : ∀ c : Char, (c == ')') = true → isBracket c = true := by
    simp [isBracket]
  have hboundary : (∃ c, s.find? isBoundary = some c ∧ endsDeclaration c = true) ∨
      s.find? isBoundary = none ↔ s.find? isBoundary ≠ some '{' := by
    cases hfind : s.find? isBoundary with
    | none => simp
    | some c =>
      have hc := List.find?_some hfind
      simp only [isBoundary, Bool.or_eq_true, beq_iff_eq] at hc
      rcases hc with (rfl | rfl) | rfl <;> simp [endsDeclaration]
  have hbracket : (∃ c, s.find? isBracket = some c ∧ (c == ')') = true) ↔
      s.find? isBracket = some ')' := by
    simp
  rw [valueRest, Pattern.matches_orElse_iff, Pattern.matches_andThen_orElse_iff,
    Pattern.matches_upTo_one_iff hends, Pattern.matches_upTo_ending_iff (by decide),
    Pattern.matches_upTo_one_iff hcloses, hboundary, hbracket, endsValue_iff]

/-- The three searches find what one reading finds. -/
theorem searchBlanks_eq_some_iff :
    searchBlanks after = some blanks ↔ ∃ unit rest, UnitOfValue after blanks unit rest := by
  simp only [searchBlanks, Option.bind_eq_bind, Option.bind_eq_some_iff, Prod.exists]
  constructor
  · rintro ⟨t, s, hblanks, u, r, hletters, h⟩
    split at h
    · next hunit =>
      obtain ⟨q, hq, ht⟩ := Option.bind_eq_some_iff.1 h
      obtain rfl := Option.some.inj ht
      obtain ⟨⟨rfl, hwhole⟩, hne⟩ := Pattern.first?_atLeastOne_iff.1 hblanks
      obtain ⟨rfl, htakes⟩ := first?_bareLetters_iff.1 hletters
      have hname := (takes_bareLetters_iff.1 htakes).2.2
      have hvalue := matches_valueRest_iff.1 (Pattern.isSome_first?_iff.1 (Option.isSome_of_mem hq))
      exact ⟨u, r, rfl, hne, hwhole, wholeRun_of_takes_bareLetters htakes, isUnit_iff.1 hunit,
        continuesName_eq_false_iff.1 hname, endsValue_iff.1 hvalue⟩
    · cases h
  · rintro ⟨u, r, h⟩
    have hblanks := Pattern.first?_atLeastOne_iff.2 ⟨⟨h.after_eq, h.blanks_whole⟩, h.blanks_ne_nil⟩
    have hname := continuesName_eq_false_iff.2 h.ends
    have htakes := takes_bareLetters_iff.2 ⟨h.unit_ne_nil, h.unit_whole.all, hname⟩
    have hletters := first?_bareLetters_iff.2 ⟨rfl, htakes⟩
    have hvalue := Pattern.isSome_first?_iff.2 (matches_valueRest_iff.2 (endsValue_iff.2 h.value))
    obtain ⟨q, hq⟩ := Option.isSome_iff_exists.1 hvalue
    refine ⟨blanks, u ++ r, hblanks, u, r, hletters, ?_⟩
    rw [if_pos (isUnit_iff.2 h.known), hq]
    rfl

theorem answer_unitSuffix (m : Markers) (text : List Char) (start stop : Nat) :
    Rule.unitSuffix.answer m text start stop = searchUnit m text stop := by
  simp only [Rule.answer, Rule.act, Rule.onUnit, searchUnit, List.drop_drop]
  -- Behind the markers both sides are compared with the one reading.
  split_ifs with hopens hpercent hunit
  · rfl
  · rfl
  · rw [Bool.and_eq_true] at hunit
    have hblanks : searchBlanks (text.drop stop) = some (Rule.space (text.drop stop)) :=
      searchBlanks_eq_some_iff.2 (exists_unitOfValue_iff.2 ⟨⟨rfl, by simpa using hunit.1⟩, hunit.2⟩)
    rw [hblanks]
    rfl
  · have hnone : searchBlanks (text.drop stop) = none := by
      rw [Option.eq_none_iff_forall_ne_some]
      intro blanks hblanks
      obtain ⟨⟨rfl, hne⟩, hstarts⟩ := exists_unitOfValue_iff.1 (searchBlanks_eq_some_iff.1 hblanks)
      simp [hne, hstarts] at hunit
    rw [hnone]
    rfl

theorem opensAt_iff : m.opensAt s = true ↔ m.opening <+: s := by
  rw [Markers.opensAt, startsWith_iff, List.IsPrefix]
  simp only [eq_comm]

theorem searchUnit_of_closed (hopens : ¬ m.opening <+: text.drop stop)
    (hpercent : ¬ '%' :: m.opening <+: text.drop stop) :
    searchUnit m text stop =
      (searchBlanks (text.drop stop)).map fun blanks => (stop + blanks.length, []) := by
  have hfirst : ¬ m.opensAt (text.drop stop) = true := by
    rwa [opensAt_iff]
  have hsecond :
      ¬ (startsWith ['%'] (text.drop stop) && m.opensAt (text.drop (stop + 1))) = true := by
    rw [Bool.and_eq_true, startsWith_singleton, opensAt_iff, ← List.drop_drop]
    rintro ⟨⟨rest, hrest⟩, hmarker⟩
    rw [hrest] at hpercent hmarker
    exact hpercent (List.cons_prefix_cons.2 ⟨rfl, hmarker⟩)
  rw [searchUnit, if_neg hfirst, if_neg hsecond]

/-- Where neither a marker nor a percent sign in front of one follows the span, the rule for units
is the chain of three searches, and it removes the blanks in front of a unit of a value and does
nothing else. -/
theorem unitSuffix_search (m : Markers) (text : List Char) (start stop : Nat)
    (hopens : ¬ m.opening <+: text.drop stop) (hpercent : ¬ '%' :: m.opening <+: text.drop stop) :
    Rule.unitSuffix.answer m text start stop = searchUnit m text stop ∧
      ∀ rewrite, Rule.unitSuffix.answer m text start stop = some rewrite ↔
        ∃ blanks unit rest, UnitOfValue (text.drop stop) blanks unit rest ∧
          rewrite = (stop + blanks.length, []) := by
  refine ⟨answer_unitSuffix m text start stop, fun rewrite => ?_⟩
  rw [answer_unitSuffix, searchUnit_of_closed hopens hpercent, Option.map_eq_some_iff]
  simp only [searchBlanks_eq_some_iff]
  constructor
  · rintro ⟨blanks, ⟨unit, rest, h⟩, rfl⟩
    exact ⟨blanks, unit, rest, h, rfl⟩
  · rintro ⟨blanks, unit, rest, h, rfl⟩
    exact ⟨blanks, ⟨unit, rest, h⟩, rfl⟩

def queryText : List Char :=
  "@media (width: %%styled-jsx-placeholder-7%%\n\tREM) \x7b\x7d\n".toList

theorem unitSuffix_search_queryText :
    ¬ Markers.standard.opening <+: queryText.drop 43 ∧
      ¬ '%' :: Markers.standard.opening <+: queryText.drop 43 ∧
        Rule.unitSuffix.answer .standard queryText 15 43 = some (45, []) ∧
          searchUnit .standard queryText 43 = some (45, []) := by
  have hopens : ¬ Markers.standard.opening <+: queryText.drop 43 := by decide +kernel
  have hpercent : ¬ '%' :: Markers.standard.opening <+: queryText.drop 43 := by decide +kernel
  have hletters : "REM".toList.all isLetter = true := by decide +kernel
  have hunit : UnitOfValue (queryText.drop 43) ['\n', '\t'] "REM".toList
      (')' :: " \x7b\x7d\n".toList) := by
    constructor
    · decide +kernel
    · simp
    · exact ⟨by simp [isStyleBlank], by simp [isStyleBlank]⟩
    · exact ⟨List.all_eq_true.1 hletters, by simp [isLetter]⟩
    · decide +kernel
    · intro c hc
      obtain rfl := Option.some.inj hc
      decide +kernel
    · decide +kernel
  obtain ⟨hsearch, hanswer⟩ := unitSuffix_search .standard queryText 15 43 hopens hpercent
  have hjoins := (hanswer (45, [])).2 ⟨_, _, _, hunit, rfl⟩
  exact ⟨hopens, hpercent, hjoins, hsearch.symm.trans hjoins⟩

end Stencil.Adjacency
