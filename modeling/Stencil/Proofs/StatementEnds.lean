import Stencil.Proofs.BlankChanges
import Stencil.Proofs.ShieldedCut
import Stencil.Proofs.VisitSplit

/-!
# Nothing looks past the end of a statement

Rules look back for the beginning of a statement and forward for what follows a token, and so does
the choice of a form. All these questions are answered at the next semicolon or brace at the latest,
on either side, if the opening marker holds no such character.
-/

namespace Stencil.Adjacency

open Stencil.Text Stencil.Token Stencil.Shield

variable {c : Char} {m : Markers}

theorem eq_of_isBoundary (hc : isBoundary c = true) : c = ';' ∨ c = '{' ∨ c = '}' := by
  simpa [isBoundary, or_assoc] using hc

theorem not_of_isBoundary {p : Char → Bool} (hp : [';', '{', '}'].any p = false)
    (hc : isBoundary c = true) : p c = false := by
  have hmem : c ∈ [';', '{', '}'] := by simpa using eq_of_isBoundary hc
  simpa using List.any_eq_false.1 hp c hmem

theorem not_isBoundary_of_isBlank (h : isBlank c = true) : isBoundary c = false := by
  cases hc : isBoundary c with
  | false => rfl
  | true =>
    have hblank : isBlank c = false := not_of_isBoundary rfl hc
    simp [h] at hblank

/-! ### Behind a token -/

section Behind

variable {p : Char → Bool}

theorem takeWhile_append_cons (hc : p c = false) (x t : List Char) :
    (x ++ c :: t).takeWhile p = x.takeWhile p := by
  refine takeWhile_append_of_head? (fun d hd => ?_) x
  obtain rfl : c = d := by simpa using hd
  exact hc

theorem dropWhile_append_cons (hc : p c = false) (x t : List Char) :
    (x ++ c :: t).dropWhile p = x.dropWhile p ++ c :: t := by
  refine dropWhile_append_of_head? (fun d hd => ?_) x
  obtain rfl : c = d := by simpa using hd
  exact hc

theorem find?_append_cons (hc : p c = true) (x t t' : List Char) :
    (x ++ c :: t).find? p = (x ++ c :: t').find? p := by
  simp [List.find?_append, hc]

theorem head?_append_cons (x t t' : List Char) : (x ++ c :: t).head? = (x ++ c :: t').head? := by
  cases x <;> rfl

theorem drop_append_cons {n : Nat} {x : List Char} (h : n ≤ x.length + 1) (c : Char)
    (t : List Char) : (x ++ c :: t).drop n = (x ++ [c]).drop n ++ t := by
  have hle : n ≤ (x ++ [c]).length := by simpa using h
  rw [← List.drop_append_of_le_length hle, List.append_assoc, List.singleton_append]

theorem after?_append_cons {front : List Char} (hc : c ∉ front) (x t : List Char) :
    after? front (x ++ c :: t) = (after? front x).map (· ++ c :: t) := by
  induction front generalizing x with
  | nil => rfl
  | cons d front ih =>
    obtain ⟨hd, hfront⟩ := not_or.1 (mt List.mem_cons.2 hc)
    cases x with
    | nil => simp [after?, Ne.symm hd]
    | cons e x =>
      by_cases he : d = e
      · simp [after?, he, ih hfront]
      · simp [after?, he]

theorem startsWith_append_cons (x t t' : List Char) (d : Char) :
    startsWith [d] (x ++ c :: t) = startsWith [d] (x ++ c :: t') := by
  rw [startsWith_singleton_eq, startsWith_singleton_eq, head?_append_cons x t t']

theorem opensAt_append_cons (x t t' : List Char) (hm : c ∉ m.opening) :
    m.opensAt (x ++ c :: t) = m.opensAt (x ++ c :: t') := by
  simp only [Markers.opensAt, startsWith, after?_append_cons hm, Option.isSome_map]

theorem percentFollows_append_cons (x t t' : List Char) (hm : c ∉ m.opening) :
    percentFollows m (x ++ c :: t) = percentFollows m (x ++ c :: t') := by
  rw [percentFollows, percentFollows, startsWith_append_cons _ t t',
    opensAt_append_cons _ t t' hm]

variable (hc : isBoundary c = true) (x t t' : List Char)
include hc

theorem opensBlock_append_cons : opensBlock (x ++ c :: t) = opensBlock (x ++ c :: t') := by
  rw [opensBlock, opensBlock, meets, meets, find?_append_cons hc x t t']

theorem endsValue_append_cons : endsValue (x ++ c :: t) = endsValue (x ++ c :: t') := by
  have hbracket : isBracket c = true := by simp [isBracket, hc]
  rw [endsValue, endsValue, meets, meets, opensBlock_append_cons hc x t t',
    find?_append_cons hbracket x t t']

theorem space_append_cons : Rule.space (x ++ c :: t) = Rule.space x :=
  takeWhile_append_cons (not_of_isBoundary (p := isStyleBlank) rfl hc) x t

theorem beyond_append_cons : Rule.beyond (x ++ c :: t) = Rule.beyond x ++ c :: t :=
  dropWhile_append_cons (not_of_isBoundary (p := isStyleBlank) rfl hc) x t

theorem startsUnit_append_cons : startsUnit (x ++ c :: t) = startsUnit (x ++ c :: t') := by
  have hletter : isLetter c = false := not_of_isBoundary rfl hc
  unfold startsUnit
  simp only [takeWhile_append_cons hletter, dropWhile_append_cons hletter]
  rw [endsValue_append_cons hc _ t t', continuesName_eq (head?_append_cons _ t t')]

theorem endsArgument_append_cons :
    Rule.endsArgument (x ++ c :: t) = Rule.endsArgument (x ++ c :: t') := by
  unfold Rule.endsArgument
  simp only [dropWhile_append_cons (not_of_isBoundary (p := isIndent) rfl hc)]
  cases x.dropWhile isIndent <;> rfl

theorem namesProperty_append_cons :
    namesProperty (x ++ c :: t) = namesProperty (x ++ c :: t') := by
  have hblank : isBlank c = false := not_of_isBoundary rfl hc
  rw [namesProperty, namesProperty, stripLeft, stripLeft, dropWhile_append_cons hblank,
    dropWhile_append_cons hblank, startsWith_append_cons _ t t']

variable (hm : c ∉ m.opening)
include hm

theorem onUnit_append_cons : Rule.onUnit m (x ++ c :: t) = Rule.onUnit m (x ++ c :: t') := by
  unfold Rule.onUnit
  simp only [space_append_cons hc, beyond_append_cons hc]
  rw [opensAt_append_cons x t t' hm, startsUnit_append_cons hc _ t t']
  cases x with
  | nil =>
    -- What stands here is the boundary itself and no percent sign.
    have hsign (t : List Char) : startsWith ['%'] ([] ++ c :: t) = false := by
      rw [startsWith_singleton_eq]
      simpa using not_of_isBoundary (p := (· == '%')) rfl hc
    rw [hsign, hsign]
    rfl
  | cons d x =>
    simp only [List.cons_append, List.drop_one, List.tail_cons]
    rw [opensAt_append_cons x t t' hm, startsWith_singleton_eq, startsWith_singleton_eq]
    rfl

theorem onPercent_append_cons :
    Rule.onPercent m (x ++ c :: t) = Rule.onPercent m (x ++ c :: t') := by
  unfold Rule.onPercent
  rw [space_append_cons hc, space_append_cons hc, beyond_append_cons hc, beyond_append_cons hc,
    startsWith_append_cons _ t t', opensAt_append_cons _ t t' hm]

end Behind

/-! ### Before a token -/

section Before

variable (hc : isBoundary c = true) (s b after : List Char)
include hc

theorem behindLast_append_cons : behindLast isBoundary (s ++ c :: b) = behindLast isBoundary b := by
  rw [behindLast_append_of_mem ⟨c, List.mem_cons_self, hc⟩, behindLast, behindLast,
    List.reverse_cons, takeWhile_append_cons (by simpa using hc)]

theorem opening_append_cons : Place.opening ⟨s ++ c :: b, after⟩ = Place.opening ⟨b, after⟩ :=
  behindLast_append_cons hc s b

theorem head_append_cons : Place.head ⟨s ++ c :: b, after⟩ = Place.head ⟨b, after⟩ := by
  rw [Place.head, Place.head, opening_append_cons hc]

end Before

/-! ### What is decided -/

theorem stopsAt_aloneInBlock (hc : isBoundary c = true) : StopsAt c aloneInBlock where
  before s b after := by rw [aloneInBlock, aloneInBlock, opening_append_cons hc]
  behind b x t := by
    have hopening : Place.opening ⟨b, x ++ c :: t⟩ = Place.opening ⟨b, x ++ [c]⟩ := rfl
    rw [aloneInBlock, aloneInBlock, hopening, opensBlock_append_cons hc x t [],
      namesProperty_append_cons hc x t []]

variable (hc : isBoundary c = true) (hm : c ∉ m.opening)
include hc hm

theorem stopsAt_act (r : Rule) : StopsAt c fun p => r.act m p where
  before s b after := by
    have hhead := head_append_cons hc s b after
    cases r <;> simp only [Rule.act, Rule.onArgument, Rule.onAtRule, Rule.onSelector, hhead]
  behind b x t := by
    have hhead : Place.head ⟨b, x ++ c :: t⟩ = Place.head ⟨b, x ++ [c]⟩ := rfl
    cases r with
    | unitSuffix => exact onUnit_append_cons hc x t [] hm
    | percentSuffix => exact onPercent_append_cons hc x t [] hm
    | functionArgument =>
      simp only [Rule.act, Rule.onArgument]
      rw [endsArgument_append_cons hc x t [], hhead]
    | atRuleParameter =>
      simp only [Rule.act, Rule.onAtRule]
      rw [hhead, space_append_cons hc, space_append_cons hc, beyond_append_cons hc,
        beyond_append_cons hc, startsWith_append_cons _ t []]
    | selector =>
      simp only [Rule.act, Rule.onSelector]
      rw [opensBlock_append_cons hc x t []]
    | noMatch => rfl

/-- What any rules do about a token rests on its own statement. -/
theorem stopsAt_chosen (rules : List Rule) : StopsAt c (chosen m rules) := by
  have hdecide : StopsAt c fun p => Rule.decide? m p rules := by
    induction rules with
    | nil => exact ⟨fun _ _ _ => rfl, fun _ _ _ => rfl⟩
    | cons r rules ih =>
      have hact := stopsAt_act hc hm r
      refine ⟨fun s b after => ?_, fun b x t => ?_⟩
      · rw [Rule.decide?, Rule.decide?, ih.before s b after, hact.before s b after]
      · rw [Rule.decide?, Rule.decide?, ih.behind b x t, hact.behind b x t]
  refine ⟨fun s b after => ?_, fun b x t => ?_⟩
  · exact congrArg (fun q => (Option.map Prod.snd q).getD .keep) (hdecide.before s b after)
  · exact congrArg (fun q => (Option.map Prod.snd q).getD .keep) (hdecide.behind b x t)

theorem stopsAt_kindAt : StopsAt c (kindAt m .block) where
  before s b after := by
    have halone : standsAlone .block ⟨s ++ c :: b, after⟩ = standsAlone .block ⟨b, after⟩ :=
      (stopsAt_aloneInBlock hc).before s b after
    rw [kindAt, kindAt, halone]
  behind b x t := by
    have halone : standsAlone .block ⟨b, x ++ c :: t⟩ = standsAlone .block ⟨b, x ++ [c]⟩ :=
      (stopsAt_aloneInBlock hc).behind b x t
    rw [kindAt, kindAt, halone, percentFollows_append_cons x t [] hm]

end Stencil.Adjacency
