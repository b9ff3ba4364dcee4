import Stencil.Proofs.Decision

/-!
# What style blanks do not change

Two texts are alike if they are the same but for style blanks. What comes first among other
characters, what stands behind the last of them and how many there are is the same in both. So a
rule that looks at the text before a token sees no difference, and a rule that looks at the text
behind a gap sees none either, if that text still begins as it did: `act_eq`.
-/

namespace Stencil.Adjacency

open Stencil.Text Stencil.Token

/-- Whether two texts are the same but for style blanks. -/
def Alike (s t : List Char) : Prop :=
  s.filter (fun c => !isStyleBlank c) = t.filter fun c => !isStyleBlank c

namespace Alike

variable {s t s' t' : List Char} {p : Char → Bool} {c : Char}

theorem append (h : Alike s t) (h' : Alike s' t') : Alike (s ++ s') (t ++ t') := by
  unfold Alike at h h' ⊢
  rw [List.filter_append, List.filter_append, h, h']

theorem find?_filter_blank (hp : ∀ c, isStyleBlank c = true → p c = false) (s : List Char) :
    (s.filter fun c => !isStyleBlank c).find? p = s.find? p := by
  rw [List.find?_filter]
  congr 1
  funext c
  cases hc : isStyleBlank c
  · simp
  · simp [hp c hc]

theorem find?_eq (h : Alike s t) (hp : ∀ c, isStyleBlank c = true → p c = false) :
    s.find? p = t.find? p := by
  rw [← find?_filter_blank hp s, h, find?_filter_blank hp t]

theorem filter_behindLast (hp : ∀ c, isStyleBlank c = true → p c = false) (s : List Char) :
    (behindLast p s).filter (fun c => !isStyleBlank c) =
      behindLast p (s.filter fun c => !isStyleBlank c) := by
  have hstop : (fun c => !!isStyleBlank c || !p c) = fun c => !p c := by
    funext c
    cases hc : isStyleBlank c
    · simp
    · simp [hp c hc]
  have hrev : (s.filter fun c => !isStyleBlank c).reverse =
      s.reverse.filter fun c => !isStyleBlank c := List.filter_reverse.symm
  rw [behindLast, behindLast, hrev, List.takeWhile_filter, hstop, List.filter_reverse]

theorem behindLast (h : Alike s t) (hp : ∀ c, isStyleBlank c = true → p c = false) :
    Alike (behindLast p s) (behindLast p t) := by
  unfold Alike
  rw [filter_behindLast hp, filter_behindLast hp, h]

theorem count_eq (h : Alike s t) (hc : isStyleBlank c = false) : s.count c = t.count c := by
  have hkeep : (!isStyleBlank c) = true := by simp [hc]
  calc
    s.count c = (s.filter fun c => !isStyleBlank c).count c :=
      (List.count_filter (p := fun c => !isStyleBlank c) hkeep).symm
    _ = (t.filter fun c => !isStyleBlank c).count c := by rw [h]
    _ = t.count c := List.count_filter (p := fun c => !isStyleBlank c) hkeep

end Alike

theorem eq_of_isStyleBlank {c : Char} (h : isStyleBlank c = true) :
    c = ' ' ∨ c = '\t' ∨ c = '\r' ∨ c = '\n' ∨ c = '\x0c' := by
  simpa [isStyleBlank, or_assoc] using h

theorem not_isBoundary_of_isStyleBlank : ∀ c, isStyleBlank c = true → isBoundary c = false := by
  intro c hc
  rcases eq_of_isStyleBlank hc with rfl | rfl | rfl | rfl | rfl <;> decide

theorem not_isBracket_of_isStyleBlank : ∀ c, isStyleBlank c = true → isBracket c = false := by
  intro c hc
  rcases eq_of_isStyleBlank hc with rfl | rfl | rfl | rfl | rfl <;> decide

/-! ### Before a token -/

theorem startsWith_stripLeft (c : Char) (s : List Char) :
    startsWith [c] (stripLeft s) = (s.find? (fun c => !isBlank c) == some c) := by
  induction s with
  | nil => rfl
  | cons d s ih =>
    cases hd : isBlank d
    · by_cases hcd : c = d
      · simp [stripLeft, startsWith, after?, hd, hcd]
      · simp [stripLeft, startsWith, after?, hd, hcd, Ne.symm hcd]
    · simpa [stripLeft, hd] using ih

theorem count_stripLeft {c : Char} (hc : isBlank c = false) (s : List Char) :
    (stripLeft s).count c = s.count c := by
  induction s with
  | nil => rfl
  | cons d s ih =>
    cases hd : isBlank d
    · simp [stripLeft, hd]
    · have hdc : d ≠ c := fun h => by simp [h, hc] at hd
      rw [List.count_cons_of_ne hdc, ← ih]
      simp [stripLeft, hd]

section Before

variable {b b' after : List Char}

theorem alike_opening (h : Alike b b') (after after' : List Char) :
    Alike (Place.opening ⟨b, after⟩) (Place.opening ⟨b', after'⟩) :=
  h.behindLast not_isBoundary_of_isStyleBlank

theorem count_head_eq (h : Alike b b') {c : Char} (hc : isBlank c = false)
    (after after' : List Char) :
    (Place.head ⟨b, after⟩).count c = (Place.head ⟨b', after'⟩).count c := by
  have hstyle : isStyleBlank c = false := by
    cases hs : isStyleBlank c
    · rfl
    · simp [isBlank_of_isStyleBlank hs] at hc
  rw [Place.head, Place.head, count_stripLeft hc, count_stripLeft hc,
    (alike_opening h after after').count_eq hstyle]

theorem inParentheses_head_eq (h : Alike b b') (after after' : List Char) :
    Rule.inParentheses (Place.head ⟨b, after⟩) = Rule.inParentheses (Place.head ⟨b', after'⟩) := by
  have hopened : isBlank '(' = false := by decide
  have hclosed : isBlank ')' = false := by decide
  simp only [Rule.inParentheses, count_head_eq h hopened after after',
    count_head_eq h hclosed after after']

theorem startsAt_head_eq (h : Alike b b') (after after' : List Char) :
    startsWith ['@'] (Place.head ⟨b, after⟩) = startsWith ['@'] (Place.head ⟨b', after'⟩) := by
  rw [Place.head, Place.head, startsWith_stripLeft '@',
    startsWith_stripLeft '@', (alike_opening h after after').find?_eq]
  intro c hc
  simp [isBlank_of_isStyleBlank hc]

end Before

/-! ### Behind a gap -/

/-- Whether the rest of a text, from a token on, was changed in style blanks alone, so that it still
begins with the same token. -/
structure Behind (m : Markers) (rest rest' : List Char) : Prop where
  alike : Alike rest rest'
  head?_eq : rest.head? = rest'.head?
  sign : ∀ c, rest.head? = some c → c = '%'
  opened : rest ≠ [] → m.opensAt rest = true
  opensAt_eq : ∀ gap, m.opensAt (gap ++ rest) = m.opensAt (gap ++ rest')

theorem startsWith_singleton_eq (c : Char) (s : List Char) :
    startsWith [c] s = (s.head? == some c) := by
  cases s with
  | nil => rfl
  | cons d s =>
    by_cases h : c = d
    · simp [startsWith, after?, h]
    · simp [startsWith, after?, h, Ne.symm h]

theorem continuesName_eq {s t : List Char} (h : s.head? = t.head?) :
    continuesName s = continuesName t := by
  cases s <;> cases t <;> simp_all [continuesName]

namespace Behind

variable {m : Markers} {gap rest rest' : List Char} (h : Behind m rest rest')
include h

theorem symm : Behind m rest' rest where
  alike := h.alike.symm
  head?_eq := h.head?_eq.symm
  sign := by
    rw [← h.head?_eq]
    exact h.sign
  opened hne := by
    have hrest : rest ≠ [] := by
      intro hnil
      have hhead := h.head?_eq
      rw [hnil] at hhead
      exact hne (List.head?_eq_none_iff.1 hhead.symm)
    have hopens := h.opensAt_eq []
    rw [List.nil_append, List.nil_append, h.opened hrest] at hopens
    exact hopens.symm
  opensAt_eq gap := (h.opensAt_eq gap).symm

/-- What stands behind a gap and is no percent sign belongs to the gap. -/
theorem cons_of_ne_percent {c : Char} {r : List Char} (hc : c ≠ '%')
    (he : gap ++ rest = c :: r) : ∃ gap', gap = c :: gap' := by
  cases gap with
  | nil =>
    have hhead : rest.head? = some c := by rw [← List.nil_append rest, he, List.head?_cons]
    exact absurd (h.sign c hhead) hc
  | cons d gap =>
    obtain ⟨rfl, -⟩ := List.cons.inj he
    exact ⟨gap, rfl⟩

omit h in
theorem append_of_not_mem {x y : List Char} (h : Behind m rest rest') (hx : '%' ∉ x)
    (he : gap ++ rest = x ++ y) : ∃ g, gap = x ++ g ∧ y = g ++ rest := by
  induction x generalizing gap with
  | nil => exact ⟨gap, rfl, he.symm⟩
  | cons c x ih =>
    obtain ⟨hc, hx⟩ := not_or.1 (mt List.mem_cons.2 hx)
    obtain ⟨gap', rfl⟩ := h.cons_of_ne_percent (Ne.symm hc) he
    obtain ⟨g, rfl, hy⟩ := ih hx (List.cons.inj he).2
    exact ⟨g, rfl, hy⟩

theorem head?_append_eq (gap : List Char) : (gap ++ rest).head? = (gap ++ rest').head? := by
  rw [List.head?_append, List.head?_append, h.head?_eq]

theorem takeWhile_eq {p : Char → Bool} (hp : p '%' = false) (gap : List Char) :
    (gap ++ rest).takeWhile p = (gap ++ rest').takeWhile p := by
  rw [takeWhile_append_of_head? (fun c hc => h.sign c hc ▸ hp),
    takeWhile_append_of_head? fun c hc => h.symm.sign c hc ▸ hp]

theorem space_eq (gap : List Char) : Rule.space (gap ++ rest) = Rule.space (gap ++ rest') :=
  h.takeWhile_eq (by decide) gap

theorem dropWhile_append {p : Char → Bool} (hp : p '%' = false) (gap : List Char) :
    (gap ++ rest).dropWhile p = gap.dropWhile p ++ rest :=
  dropWhile_append_of_head? (fun c hc => h.sign c hc ▸ hp) gap

theorem beyond_append (gap : List Char) :
    Rule.beyond (gap ++ rest) = gap.dropWhile isStyleBlank ++ rest :=
  h.dropWhile_append (by decide) gap

theorem alike_append (gap : List Char) : Alike (gap ++ rest) (gap ++ rest') :=
  Alike.append rfl h.alike

theorem opensBlock_eq (gap : List Char) : opensBlock (gap ++ rest) = opensBlock (gap ++ rest') := by
  rw [opensBlock, opensBlock, meets, meets,
    (h.alike_append gap).find?_eq not_isBoundary_of_isStyleBlank]

theorem endsValue_eq (gap : List Char) : endsValue (gap ++ rest) = endsValue (gap ++ rest') := by
  rw [endsValue, endsValue, h.opensBlock_eq, meets, meets,
    (h.alike_append gap).find?_eq not_isBracket_of_isStyleBlank]

theorem startsUnit_eq (gap : List Char) : startsUnit (gap ++ rest) = startsUnit (gap ++ rest') := by
  simp only [startsUnit]
  rw [h.takeWhile_eq (by decide), h.dropWhile_append (by decide),
    h.symm.dropWhile_append (by decide), h.endsValue_eq, continuesName_eq (h.head?_append_eq _)]

theorem startsWith_eq (c : Char) (gap : List Char) :
    startsWith [c] (gap ++ rest) = startsWith [c] (gap ++ rest') := by
  rw [startsWith_singleton_eq, startsWith_singleton_eq, h.head?_append_eq]

theorem onUnit_eq (gap : List Char) :
    Rule.onUnit m (gap ++ rest) = Rule.onUnit m (gap ++ rest') := by
  simp only [Rule.onUnit, h.beyond_append, h.symm.beyond_append]
  rw [h.opensAt_eq gap, h.startsWith_eq, h.space_eq, h.startsUnit_eq]
  cases gap with
  | nil =>
    -- The text is over, or the next token stands right here.
    cases rest with
    | nil =>
      have hnil : rest' = [] := List.head?_eq_none_iff.1 h.head?_eq.symm
      rw [hnil]
    | cons c rest =>
      have hopens : m.opensAt ([] ++ rest') = true := by
        rw [← h.opensAt_eq]
        exact h.opened (by simp)
      rw [if_pos hopens, if_pos hopens]
  | cons c gap => rw [List.cons_append, List.cons_append, List.drop_one, List.drop_one,
      List.tail_cons, List.tail_cons, h.opensAt_eq gap]

theorem onPercent_eq (gap : List Char) :
    Rule.onPercent m (gap ++ rest) = Rule.onPercent m (gap ++ rest') := by
  rw [Rule.onPercent, Rule.onPercent, h.beyond_append, h.symm.beyond_append, h.space_eq,
    h.startsWith_eq, h.opensAt_eq]

theorem endsArgument_eq (gap : List Char) :
    Rule.endsArgument (gap ++ rest) = Rule.endsArgument (gap ++ rest') := by
  rw [Rule.endsArgument, Rule.endsArgument, h.dropWhile_append (by decide),
    h.symm.dropWhile_append (by decide)]
  have hhead := h.head?_append_eq (gap.dropWhile isIndent)
  revert hhead
  generalize gap.dropWhile isIndent ++ rest = x
  generalize gap.dropWhile isIndent ++ rest' = y
  intro hhead
  cases x <;> cases y <;> simp_all

variable {b b' : List Char}

theorem onArgument_eq (hb : Alike b b') (gap : List Char) :
    Rule.onArgument ⟨b, gap ++ rest⟩ = Rule.onArgument ⟨b', gap ++ rest'⟩ := by
  rw [Rule.onArgument, Rule.onArgument, h.endsArgument_eq, inParentheses_head_eq hb]

theorem onAtRule_eq (hb : Alike b b') (gap : List Char) :
    Rule.onAtRule ⟨b, gap ++ rest⟩ = Rule.onAtRule ⟨b', gap ++ rest'⟩ := by
  rw [Rule.onAtRule, Rule.onAtRule, startsAt_head_eq hb _ (gap ++ rest')]
  simp only [h.beyond_append, h.symm.beyond_append]
  rw [h.space_eq, h.startsWith_eq]

/-- No rule sees a change in style blanks before the token or behind the gap. -/
theorem act_eq (hb : Alike b b') (gap : List Char) (r : Rule) :
    r.act m ⟨b, gap ++ rest⟩ = r.act m ⟨b', gap ++ rest'⟩ := by
  cases r with
  | unitSuffix => exact h.onUnit_eq gap
  | percentSuffix => exact h.onPercent_eq gap
  | functionArgument => exact h.onArgument_eq hb gap
  | atRuleParameter => exact h.onAtRule_eq hb gap
  | selector => simp only [Rule.act, Rule.onSelector, h.opensBlock_eq]
  | noMatch => rfl

theorem chosen_eq (hb : Alike b b') (gap : List Char) (rules : List Rule) :
    chosen m rules ⟨b, gap ++ rest⟩ = chosen m rules ⟨b', gap ++ rest'⟩ := by
  have hdecide : Rule.decide? m ⟨b, gap ++ rest⟩ rules =
      Rule.decide? m ⟨b', gap ++ rest'⟩ rules := by
    induction rules with
    | nil => rfl
    | cons r rules ih => rw [Rule.decide?, Rule.decide?, h.act_eq hb, ih]
  rw [chosen, chosen, hdecide]

end Behind

end Stencil.Adjacency
