import Mathlib.Data.List.TakeWhile
import Stencil.Proofs.LineBreaks
import Stencil.Proofs.SeparateStatements
import Stencil.Proofs.ShieldRoundTrip

/-!
# Texts with other indices

Two texts may be the same but for the digits of their tokens. A token begins with a percent sign and
holds no blank, no semicolon and no bracket, whatever its digits are. So every question that a rule
or the choice of a form asks is answered for both texts in the same way, although their characters
do not stand in the same columns: `Renumbered.act_eq`, `Renumbered.kindAt_eq`.
-/

namespace Stencil.Adjacency

open Stencil.Text Stencil.Token Stencil.Shield

/-- Texts that are the same but for the digits of standard tokens. -/
inductive Renumbered : List Char → List Char → Prop
  | nil : Renumbered [] []
  | char (c : Char) {s t : List Char} (h : Renumbered s t) : Renumbered (c :: s) (c :: t)
  | token {d e s t : List Char} (hd : Markers.standard.lexeme.Reads d)
      (he : Markers.standard.lexeme.Reads e) (h : Renumbered s t) :
      Renumbered (Markers.standard.token d ++ s) (Markers.standard.token e ++ t)

variable {s t s' t' w digits : List Char} {c : Char} {p : Char → Bool}

/-! ### Characters of tokens -/

theorem standard_token_cons (digits : List Char) :
    ∃ w, Markers.standard.token digits =
      '%' :: '%' :: 's' :: ("tyled-jsx-placeholder-".toList ++ w) := by
  refine ⟨digits ++ Markers.standard.closing, ?_⟩
  rw [Markers.token, Markers.standard_opening, List.append_assoc]
  rfl

theorem not_of_mem_token (hp : ∀ c, p c = true → Markers.standard.lexeme.Avoids c)
    (hd : Markers.standard.lexeme.Reads digits) :
    ∀ c ∈ Markers.standard.token digits, p c = false := by
  intro c hmem
  cases hc : p c with
  | false => rfl
  | true => exact absurd hmem (hp c hc digits hd)

theorem forall_mem_token (hp : ∀ c, p c = false → Markers.standard.lexeme.Avoids c)
    (hd : Markers.standard.lexeme.Reads digits) :
    ∀ c ∈ Markers.standard.token digits, p c = true := by
  have hnot : ∀ c, (!p c) = true → Markers.standard.lexeme.Avoids c :=
    fun c hc => hp c (by simpa using hc)
  intro c hc
  simpa using not_of_mem_token hnot hd c hc

theorem standard_avoids_of_isBracket (hc : isBracket c = true) :
    Markers.standard.lexeme.Avoids c := by
  refine Markers.standard_avoids (by decide +kernel) hc ?_
  simp only [isBracket, Bool.or_eq_true, beq_iff_eq] at hc
  rcases hc with (hc | rfl) | rfl
  · exact not_isDecimal_of_isBoundary hc
  · decide
  · decide

/-! ### The first line that is not blank -/

theorem nextIndent?_cons_of_isLineBreak (hc : isLineBreak c = true) (s : List Char) :
    nextIndent? (c :: s) = nextIndent? s := by
  obtain ⟨lines, hlines, rfl | hs⟩ := splitLines_cons_of_isLineBreak hc s
  · rw [nextIndent?, hlines]
    simp [nextIndent?, allBlank]
  · rw [nextIndent?, nextIndent?, hlines, hs]

theorem nextIndent?_cons_of_not_isBlank (hc : isBlank c = false) (s : List Char) :
    nextIndent? (c :: s) = some 0 := by
  have hbreak : isLineBreak c = false := by
    cases hb : isLineBreak c with
    | false => rfl
    | true => simp [isBlank_of_isLineBreak hb] at hc
  rw [nextIndent?, splitLines_cons hbreak]
  simp [allBlank, hc]

theorem nextIndent?_cons_of_isBlank (hc : isBlank c = true) (hbreak : isLineBreak c = false)
    (s : List Char) :
    nextIndent? (c :: s) = if allBlank (s.takeWhile fun c => !isLineBreak c) then nextIndent? s
      else (nextIndent? s).map (· + 1) := by
  rw [nextIndent?, splitLines_cons hbreak, ← headD_splitLines, nextIndent?]
  cases splitLines s with
  | nil => simp [allBlank, hc]
  | cons line lines =>
    cases hline : allBlank line with
    | true => simp_all [allBlank]
    | false => simp_all [allBlank]

namespace Renumbered

theorem refl (s : List Char) : Renumbered s s := by
  induction s with
  | nil => exact .nil
  | cons c s ih => exact .char c ih

theorem append (h : Renumbered s t) (h' : Renumbered s' t') : Renumbered (s ++ s') (t ++ t') := by
  induction h with
  | nil => exact h'
  | char c _ ih => exact .char c ih
  | token hd he _ ih =>
    rw [List.append_assoc, List.append_assoc]
    exact .token hd he ih

theorem symm (h : Renumbered s t) : Renumbered t s := by
  induction h with
  | nil => exact .nil
  | char c _ ih => exact .char c ih
  | token hd he _ ih => exact .token he hd ih

theorem woven {f : List Char → List Char} {tail : List (List Char × List Char)}
    (htail : ∀ q ∈ tail, Markers.standard.lexeme.Reads q.1)
    (hf : ∀ q ∈ tail, Markers.standard.lexeme.Reads (f q.1)) :
    Renumbered (woven Markers.standard.token tail)
      (woven Markers.standard.token (tail.map fun q => (f q.1, q.2))) := by
  induction tail with
  | nil => exact .nil
  | cons q more ih =>
    obtain ⟨digits, gap⟩ := q
    obtain ⟨hdigits, hmore⟩ := List.forall_mem_cons.1 htail
    obtain ⟨hdigits', hmore'⟩ := List.forall_mem_cons.1 hf
    rw [List.map_cons, woven_cons, woven_cons]
    exact .token hdigits hdigits' ((refl gap).append (ih hmore hmore'))

section

variable (h : Renumbered s t)
include h

/-! ### What stands in front -/

theorem head?_eq : s.head? = t.head? := by
  cases h with
  | nil => rfl
  | char => rfl
  | @token d e _ _ _ _ _ =>
    obtain ⟨w, hd⟩ := standard_token_cons d
    obtain ⟨w', he⟩ := standard_token_cons e
    rw [hd, he]
    rfl

theorem startsWith_eq (c : Char) : startsWith [c] s = startsWith [c] t := by
  rw [startsWith_singleton_eq, startsWith_singleton_eq, h.head?_eq]

theorem exists_of_append (hw : '%' ∉ w) (he : s = w ++ s') :
    ∃ t', t = w ++ t' ∧ Renumbered s' t' := by
  induction w generalizing s t with
  | nil =>
    obtain rfl : s = s' := he
    exact ⟨t, rfl, h⟩
  | cons c w ih =>
    obtain ⟨hc, hrest⟩ := not_or.1 (mt List.mem_cons.2 hw)
    cases h with
    | nil => simp at he
    | char d h =>
      obtain ⟨rfl, htail⟩ := List.cons.inj he
      obtain ⟨t', rfl, ht'⟩ := ih h hrest htail
      exact ⟨t', rfl, ht'⟩
    | @token d _ _ _ _ _ _ =>
      obtain ⟨w', hd⟩ := standard_token_cons d
      rw [hd] at he
      exact absurd (List.cons.inj he).1 hc

theorem opensAt_of_opensAt (hopens : Markers.standard.opensAt s = true) :
    Markers.standard.opensAt t = true := by
  have hinside : '%' ∉ 's' :: "tyled-jsx-placeholder-".toList := by decide +kernel
  rw [Markers.opensAt_standard_iff] at hopens ⊢
  obtain ⟨r, hr⟩ := hopens
  cases h with
  | nil => simp at hr
  | @token _ e _ t _ _ _ =>
    obtain ⟨w, he⟩ := standard_token_cons e
    refine ⟨w ++ t, ?_⟩
    rw [he]
    simp
  | char c h =>
    -- A token does not begin at the second percent sign, and so no token begins before the digits.
    obtain ⟨hc, hr⟩ := List.cons.inj hr
    cases h with
    | nil => simp at hr
    | @token d _ _ _ _ _ _ =>
      obtain ⟨w, hd⟩ := standard_token_cons d
      rw [hd] at hr
      simp at hr
    | char c' h =>
      obtain ⟨hc', hr⟩ := List.cons.inj hr
      obtain ⟨t', rfl, -⟩ := h.exists_of_append hinside hr
      exact ⟨t', by rw [hc, hc', List.cons_append]⟩

theorem opensAt_eq : Markers.standard.opensAt s = Markers.standard.opensAt t :=
  Bool.eq_iff_iff.2 ⟨h.opensAt_of_opensAt, h.symm.opensAt_of_opensAt⟩

/-! ### A run of characters in front -/

theorem takeWhile_eq (hp : p '%' = false) : s.takeWhile p = t.takeWhile p := by
  induction h with
  | nil => rfl
  | char c _ ih => rw [List.takeWhile_cons, List.takeWhile_cons, ih]
  | @token d e _ _ _ _ _ _ =>
    obtain ⟨w, hd⟩ := standard_token_cons d
    obtain ⟨w', he⟩ := standard_token_cons e
    rw [hd, he]
    simp [hp]

theorem dropWhile (hp : p '%' = false) : Renumbered (s.dropWhile p) (t.dropWhile p) := by
  induction h with
  | nil => exact .nil
  | char c h ih =>
    rw [List.dropWhile_cons, List.dropWhile_cons]
    split_ifs
    · exact ih
    · exact .char c h
  | @token d e _ _ hd he h _ =>
    have hstop (digits x : List Char) : (Markers.standard.token digits ++ x).dropWhile p =
        Markers.standard.token digits ++ x := by
      obtain ⟨w, hw⟩ := standard_token_cons digits
      rw [hw]
      simp [hp]
    rw [hstop, hstop]
    exact .token hd he h

theorem allBlank_eq : allBlank s = allBlank t := by
  have hstrip : stripLeft s = [] ↔ stripLeft t = [] := by
    have hrest : Renumbered (stripLeft s) (stripLeft t) := h.dropWhile (by decide)
    rw [← List.head?_eq_none_iff, ← List.head?_eq_none_iff, hrest.head?_eq]
  rw [Bool.eq_iff_iff, ← stripLeft_eq_nil_iff, ← stripLeft_eq_nil_iff, hstrip]

theorem eq_of_allBlank (hblank : allBlank s = true) : s = t := by
  have hwhole {x : List Char} (hx : allBlank x = true) : x.takeWhile isBlank = x :=
    List.takeWhile_eq_self_iff.2 (List.all_eq_true.1 hx)
  have htake := h.takeWhile_eq (p := isBlank) (by decide)
  rwa [hwhole hblank, hwhole (h.allBlank_eq ▸ hblank)] at htake

/-! ### Characters that stand in no token -/

section

variable (hp : ∀ c, p c = true → Markers.standard.lexeme.Avoids c)
include hp

theorem find?_eq : s.find? p = t.find? p := by
  induction h with
  | nil => rfl
  | char c _ ih => rw [List.find?_cons, List.find?_cons, ih]
  | token hd he _ ih =>
    have hnone {digits : List Char} (hread : Markers.standard.lexeme.Reads digits) :
        (Markers.standard.token digits).find? p = none := by
      rw [List.find?_eq_none]
      intro c hc
      simp [not_of_mem_token hp hread c hc]
    rw [List.find?_append, List.find?_append, hnone hd, hnone he, ih]

theorem exists_mem_iff : (∃ c ∈ s, p c = true) ↔ ∃ c ∈ t, p c = true := by
  rw [← List.find?_isSome, ← List.find?_isSome, h.find?_eq hp]

theorem behindLast_append {a b : List Char}
    (hfront : Renumbered (Text.behindLast p a) (Text.behindLast p b))
    (hbehind : Renumbered (Text.behindLast p s) (Text.behindLast p t)) :
    Renumbered (Text.behindLast p (a ++ s)) (Text.behindLast p (b ++ t)) := by
  by_cases hs : ∃ c ∈ s, p c = true
  · rw [behindLast_append_of_mem hs, behindLast_append_of_mem ((h.exists_mem_iff hp).1 hs)]
    exact hbehind
  · have ht := mt (h.exists_mem_iff hp).2 hs
    simp only [not_exists, not_and, Bool.not_eq_true] at hs ht
    rw [behindLast_append_of_forall hs, behindLast_append_of_forall ht]
    exact hfront.append h

theorem behindLast : Renumbered (Text.behindLast p s) (Text.behindLast p t) := by
  induction h with
  | nil => exact .refl _
  | char c h ih => exact h.behindLast_append hp (a := [c]) (b := [c]) (.refl _) ih
  | @token d e _ _ hd he h ih =>
    have hwhole {digits : List Char} (hread : Markers.standard.lexeme.Reads digits) :
        Text.behindLast p (Markers.standard.token digits) = Markers.standard.token digits :=
      behindLast_append_of_forall (not_of_mem_token hp hread) []
    refine h.behindLast_append hp ?_ ih
    rw [hwhole hd, hwhole he]
    simpa using Renumbered.token hd he .nil

end

theorem count_eq (hc : Markers.standard.lexeme.Avoids c) : s.count c = t.count c := by
  induction h with
  | nil => rfl
  | char d _ ih => rw [List.count_cons, List.count_cons, ih]
  | token hd he _ ih =>
    have hnone {digits : List Char} (hread : Markers.standard.lexeme.Reads digits) :
        (Markers.standard.token digits).count c = 0 := List.count_eq_zero.2 (hc digits hread)
    rw [List.count_append, List.count_append, hnone hd, hnone he, ih]

/-! ### Lines -/

section

variable (hp : ∀ c, p c = false → Markers.standard.lexeme.Avoids c)
include hp

theorem takeWhile : Renumbered (s.takeWhile p) (t.takeWhile p) := by
  induction h with
  | nil => exact .nil
  | char c _ ih =>
    rw [List.takeWhile_cons, List.takeWhile_cons]
    split_ifs
    · exact .char c ih
    · exact .nil
  | token hd he _ ih =>
    rw [List.takeWhile_append_of_pos (forall_mem_token hp hd),
      List.takeWhile_append_of_pos (forall_mem_token hp he)]
    exact .token hd he ih

theorem drop_dropWhile : Renumbered ((s.dropWhile p).drop 1) ((t.dropWhile p).drop 1) := by
  induction h with
  | nil => exact .nil
  | char c h ih =>
    rw [List.dropWhile_cons, List.dropWhile_cons]
    split_ifs
    · exact ih
    · exact h
  | token hd he _ ih =>
    rw [List.dropWhile_append_of_pos (forall_mem_token hp hd),
      List.dropWhile_append_of_pos (forall_mem_token hp he)]
    exact ih

end

theorem nextIndent?_eq : nextIndent? s = nextIndent? t := by
  induction h with
  | nil => rfl
  | char c h ih =>
    cases hbreak : isLineBreak c with
    | true =>
      rw [nextIndent?_cons_of_isLineBreak hbreak, nextIndent?_cons_of_isLineBreak hbreak, ih]
    | false =>
      cases hblank : isBlank c with
      | false =>
        rw [nextIndent?_cons_of_not_isBlank hblank, nextIndent?_cons_of_not_isBlank hblank]
      | true =>
        have hline := h.takeWhile (p := fun c => !isLineBreak c) fun c hc =>
          Markers.standard_avoids_of_isBlank (isBlank_of_isLineBreak (by simpa using hc))
        rw [nextIndent?_cons_of_isBlank hblank hbreak, nextIndent?_cons_of_isBlank hblank hbreak,
          hline.allBlank_eq, ih]
  | @token d e _ _ _ _ _ _ =>
    have hsign : isBlank '%' = false := by decide
    obtain ⟨w, hd⟩ := standard_token_cons d
    obtain ⟨w', he⟩ := standard_token_cons e
    rw [hd, he]
    exact (nextIndent?_cons_of_not_isBlank hsign _).trans
      (nextIndent?_cons_of_not_isBlank hsign _).symm

/-! ### What the rules ask -/

theorem opensBlock_eq : opensBlock s = opensBlock t := by
  rw [opensBlock, opensBlock, meets, meets, h.find?_eq fun _ hc => standard_avoids_of_isBoundary hc]

theorem startsUnit_eq : startsUnit s = startsUnit t := by
  have hrest : Renumbered (s.dropWhile isLetter) (t.dropWhile isLetter) := h.dropWhile (by decide)
  have hends : endsValue (s.dropWhile isLetter) = endsValue (t.dropWhile isLetter) := by
    rw [endsValue, endsValue, hrest.opensBlock_eq, meets, meets,
      hrest.find?_eq fun _ hc => standard_avoids_of_isBracket hc]
  simp only [startsUnit]
  rw [h.takeWhile_eq (p := isLetter) (by decide), continuesName_eq hrest.head?_eq, hends]

theorem space_eq : Rule.space s = Rule.space t :=
  h.takeWhile_eq (by decide)

theorem beyond : Renumbered (Rule.beyond s) (Rule.beyond t) :=
  h.dropWhile (by decide)

theorem onUnit_eq : Rule.onUnit .standard s = Rule.onUnit .standard t := by
  have hopens := h.opensAt_eq
  simp only [Rule.onUnit]
  rw [hopens, h.startsWith_eq, h.space_eq, h.beyond.startsUnit_eq]
  cases h with
  | nil => rfl
  | char c h =>
    rw [List.drop_one, List.drop_one, List.tail_cons, List.tail_cons, h.opensAt_eq]
  | @token _ e _ t _ _ _ =>
    -- What stands behind the first percent sign of a token does not matter.
    have hopen : Markers.standard.opensAt (Markers.standard.token e ++ t) = true := by
      rw [Markers.opensAt, startsWith_iff]
      exact ⟨e ++ Markers.standard.closing ++ t, by simp [Markers.token]⟩
    rw [if_pos hopen, if_pos hopen]

theorem onPercent_eq : Rule.onPercent .standard s = Rule.onPercent .standard t := by
  rw [Rule.onPercent, Rule.onPercent, h.space_eq, h.beyond.startsWith_eq, h.beyond.opensAt_eq]

theorem endsArgument_eq : Rule.endsArgument s = Rule.endsArgument t := by
  have hrest : Renumbered (s.dropWhile isIndent) (t.dropWhile isIndent) := h.dropWhile (by decide)
  have hhead := hrest.head?_eq
  rw [Rule.endsArgument, Rule.endsArgument]
  revert hhead
  generalize s.dropWhile isIndent = x
  generalize t.dropWhile isIndent = y
  intro hhead
  cases x <;> cases y <;> simp_all

end

section Places

variable {b b' a a' : List Char} (hb : Renumbered b b') (ha : Renumbered a a')

include hb in
theorem opening : Renumbered (Place.opening ⟨b, a⟩) (Place.opening ⟨b', a'⟩) :=
  hb.behindLast fun _ hc => standard_avoids_of_isBoundary hc

include hb in
theorem head : Renumbered (Place.head ⟨b, a⟩) (Place.head ⟨b', a'⟩) :=
  (opening hb).dropWhile (by decide)

include hb in
theorem inParentheses_eq :
    Rule.inParentheses (Place.head ⟨b, a⟩) = Rule.inParentheses (Place.head ⟨b', a'⟩) := by
  have hhead : Renumbered (Place.head ⟨b, a⟩) (Place.head ⟨b', a'⟩) := head hb
  rw [Rule.inParentheses, Rule.inParentheses,
    hhead.count_eq (standard_avoids_of_isBracket (by decide)),
    hhead.count_eq (standard_avoids_of_isBracket (by decide))]

include hb ha

/-- No rule sees which digits a token has. -/
theorem act_eq (r : Rule) : r.act .standard ⟨b, a⟩ = r.act .standard ⟨b', a'⟩ := by
  have hhead : Renumbered (Place.head ⟨b, a⟩) (Place.head ⟨b', a'⟩) := head hb
  cases r with
  | unitSuffix => exact ha.onUnit_eq
  | percentSuffix => exact ha.onPercent_eq
  | functionArgument =>
    simp only [Rule.act, Rule.onArgument]
    rw [ha.endsArgument_eq, inParentheses_eq hb]
  | atRuleParameter =>
    simp only [Rule.act, Rule.onAtRule]
    rw [hhead.startsWith_eq, ha.space_eq, ha.beyond.startsWith_eq]
  | selector =>
    simp only [Rule.act, Rule.onSelector]
    rw [ha.opensBlock_eq]
  | noMatch => rfl

theorem chosen_eq (rules : List Rule) :
    chosen .standard rules ⟨b, a⟩ = chosen .standard rules ⟨b', a'⟩ := by
  have hdecide : Rule.decide? .standard ⟨b, a⟩ rules = Rule.decide? .standard ⟨b', a'⟩ rules := by
    induction rules with
    | nil => rfl
    | cons r rules ih => rw [Rule.decide?, Rule.decide?, act_eq hb ha, ih]
  rw [chosen, chosen, hdecide]

/-! ### What the choice of a form asks -/

theorem aloneInBlock_eq : aloneInBlock ⟨b, a⟩ = aloneInBlock ⟨b', a'⟩ := by
  have hopening : Renumbered (Place.opening ⟨b, a⟩) (Place.opening ⟨b', a'⟩) := opening hb
  have hrest : Renumbered (stripLeft a) (stripLeft a') := ha.dropWhile (by decide)
  simp only [aloneInBlock, namesProperty]
  rw [hopening.allBlank_eq, ha.opensBlock_eq, hrest.startsWith_eq]

theorem aloneOnLine_eq : aloneOnLine ⟨b, a⟩ = aloneOnLine ⟨b', a'⟩ := by
  have hfeed : ∀ c, (c == '\n') = true → Markers.standard.lexeme.Avoids c := by
    intro c hc
    obtain rfl : c = '\n' := by simpa using hc
    exact Markers.standard_avoids_of_isBlank (by decide)
  have hother : ∀ c, (c != '\n') = false → Markers.standard.lexeme.Avoids c :=
    fun c hc => hfeed c (by simpa using hc)
  have hbefore : Renumbered (Place.lineBefore ⟨b, a⟩) (Place.lineBefore ⟨b', a'⟩) :=
    hb.behindLast hfeed
  have hafter : Renumbered (Place.lineAfter ⟨b, a⟩) (Place.lineAfter ⟨b', a'⟩) :=
    ha.takeWhile hother
  have hbelow : Renumbered (Place.below ⟨b, a⟩) (Place.below ⟨b', a'⟩) :=
    ha.drop_dropWhile hother
  simp only [aloneOnLine]
  rw [hafter.allBlank_eq, hbelow.nextIndent?_eq]
  cases hblank : allBlank (Place.lineBefore ⟨b, a⟩) with
  | true => rw [← hbefore.eq_of_allBlank hblank, hblank]
  | false =>
    rw [← hbefore.allBlank_eq, hblank]
    rfl

theorem kindAt_eq (d : Dialect) : kindAt .standard d ⟨b, a⟩ = kindAt .standard d ⟨b', a'⟩ := by
  have halone : standsAlone d ⟨b, a⟩ = standsAlone d ⟨b', a'⟩ := by
    cases d with
    | block => exact aloneInBlock_eq hb ha
    | indented => exact aloneOnLine_eq hb ha
  have hpercent : percentFollows .standard a = percentFollows .standard a' := by
    rw [percentFollows, percentFollows, ha.startsWith_eq, ha.opensAt_eq]
  rw [kindAt, kindAt, hpercent, halone]

end Places

end Renumbered

end Stencil.Adjacency
