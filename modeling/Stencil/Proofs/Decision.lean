import Mathlib.Tactic.SplitIfs
import Stencil.Adjacency.Restore
import Stencil.Proofs.TokenCut

/-!
# What a decision rests on

Whatever rules are tried and in whatever order, a gap is rewritten only where the place of its token
calls for it. `Justified` says which places call for which rewrite, and every result about restored
style sheets is drawn from it. A rewrite that is called for never lets a token begin inside of the
new gap: `Justified.silent_apply`.
-/

namespace Stencil.Adjacency

open Stencil.Text Stencil.Token

/-- The rewrites that a place calls for. -/
inductive Justified (m : Markers) (p : Place) : Rewrite → Prop
  | keep : Justified m p .keep
  | separate (h : m.opensAt p.after = true) : Justified m p .separate
  | separateSecond {rest : List Char} (h : p.after = '%' :: rest)
      (hclosed : m.opensAt p.after = false) (hopens : m.opensAt rest = true) :
      Justified m p .separateSecond
  | joinUnit (hspace : Rule.space p.after ≠ [])
      (hunit : startsUnit (Rule.beyond p.after) = true) : Justified m p .join
  | joinPercent (hspace : Rule.space p.after ≠ [])
      (hpercent : startsWith ['%'] (Rule.beyond p.after) = true)
      (hclosed : m.opensAt (Rule.beyond p.after) = false) : Justified m p .join
  | oneSpace (hhead : startsWith ['@'] p.head = true) (hspace : Rule.space p.after ≠ [])
      (hother : Rule.space p.after ≠ [' '])
      (hbrace : startsWith ['{'] (Rule.beyond p.after) = true) : Justified m p .oneSpace

theorem startsWith_singleton {c : Char} {s : List Char} :
    startsWith [c] s = true ↔ ∃ rest, s = c :: rest := by
  simp [startsWith_iff]

variable {m : Markers} {p : Place} {w : Rewrite}

theorem justified_of_onUnit (h : Rule.onUnit m p.after = some w) : Justified m p w := by
  unfold Rule.onUnit at h
  split_ifs at h with hopens hpercent hunit
  · obtain rfl := Option.some.inj h
    exact .separate hopens
  · obtain rfl := Option.some.inj h
    rw [Bool.and_eq_true, startsWith_singleton] at hpercent
    obtain ⟨⟨rest, hrest⟩, hopens'⟩ := hpercent
    refine .separateSecond hrest (by simpa using hopens) ?_
    simpa [hrest] using hopens'
  · obtain rfl := Option.some.inj h
    rw [Bool.and_eq_true] at hunit
    exact .joinUnit (by simpa using hunit.1) hunit.2

theorem justified_of_onPercent (h : Rule.onPercent m p.after = some w) : Justified m p w := by
  unfold Rule.onPercent at h
  split_ifs at h with hpercent
  obtain rfl := Option.some.inj h
  rw [Bool.and_eq_true, Bool.and_eq_true] at hpercent
  obtain ⟨⟨hspace, hsign⟩, hclosed⟩ := hpercent
  exact .joinPercent (by simpa using hspace) hsign (by simpa using hclosed)

theorem justified_of_onAtRule (h : Rule.onAtRule p = some w) : Justified m p w := by
  unfold Rule.onAtRule at h
  split_ifs at h with hhead hbrace
  · obtain rfl := Option.some.inj h
    rw [Bool.and_eq_true, Bool.and_eq_true] at hbrace
    obtain ⟨⟨hspace, hother⟩, hopen⟩ := hbrace
    exact .oneSpace hhead (by simpa using hspace) (by simpa using hother) hopen
  · obtain rfl := Option.some.inj h
    exact .keep

theorem eq_keep_of_onArgument (h : Rule.onArgument p = some w) : w = .keep := by
  unfold Rule.onArgument at h
  split_ifs at h
  exact (Option.some.inj h).symm

theorem eq_keep_of_onSelector (h : Rule.onSelector p = some w) : w = .keep := by
  unfold Rule.onSelector at h
  split_ifs at h
  exact (Option.some.inj h).symm

theorem eq_of_onAtRule (h : Rule.onAtRule p = some w) : w = .oneSpace ∨ w = .keep := by
  unfold Rule.onAtRule at h
  split_ifs at h
  · exact .inl (Option.some.inj h).symm
  · exact .inr (Option.some.inj h).symm

/-- A rule that applies does what the place calls for. -/
theorem justified_of_act {r : Rule} (h : r.act m p = some w) : Justified m p w := by
  cases r with
  | unitSuffix => exact justified_of_onUnit h
  | percentSuffix => exact justified_of_onPercent h
  | functionArgument =>
    obtain rfl := eq_keep_of_onArgument h
    exact .keep
  | atRuleParameter => exact justified_of_onAtRule h
  | selector =>
    obtain rfl := eq_keep_of_onSelector h
    exact .keep
  | noMatch =>
    obtain rfl := Option.some.inj h
    exact .keep

@[simp] theorem settle_digits (rules : List Rule) (digits gap : List Char) :
    (settle m rules p digits gap).digits = digits := by
  unfold settle
  split <;> rfl

/-- What some rules do at a place together; where none of them applies, the gap stays. -/
def chosen (m : Markers) (rules : List Rule) (p : Place) : Rewrite :=
  ((Rule.decide? m p rules).map Prod.snd).getD .keep

@[simp] theorem settle_gap (m : Markers) (rules : List Rule) (p : Place) (digits gap : List Char) :
    (settle m rules p digits gap).gap = (chosen m rules p).apply gap := by
  unfold settle chosen
  split
  · next r w h => simp [h]
  · next h => simp [h]

/-- Any sequence of rules does what the place calls for. -/
theorem justified_chosen (m : Markers) (rules : List Rule) (p : Place) :
    Justified m p (chosen m rules p) := by
  unfold chosen
  cases h : Rule.decide? m p rules with
  | none => exact .keep
  | some q => exact justified_of_act (Rule.mem_of_decide? h).2

variable {gap : List Char} {tail : List (List Char × List Char)}

theorem Justified.percent_mem_gap (h : Justified m p .separateSecond)
    (hp : p.after = gap ++ woven m.token tail) :
    ∃ rest, gap = '%' :: rest ∧ m.opensAt (rest ++ m.lexeme.front tail) = true := by
  cases h with
  | separateSecond hrest hclosed hopens =>
    rw [hp] at hrest hclosed
    obtain ⟨rest, rfl, rfl⟩ := Markers.cons_of_not_opensAt Markers.opensAt_woven hrest hclosed
    exact ⟨rest, rfl, by rwa [← Markers.opensAt_woven_iff]⟩

/-- A rewrite that the place calls for never lets a token begin inside of the new gap, unless the
opening marker itself begins with a space. -/
theorem Justified.silent_apply (h : Justified m p w) (hm : m.opening.head? ≠ some ' ')
    (hp : p.after = gap ++ woven m.token tail) (hs : m.lexeme.Silent gap (m.lexeme.front tail)) :
    m.lexeme.Silent (w.apply gap) (m.lexeme.front tail) := by
  have hdrop := hs.of_suffix (List.dropWhile_suffix isStyleBlank)
  have hspaced {s : List Char} (hs : m.lexeme.Silent s (m.lexeme.front tail)) :
      m.lexeme.Silent (' ' :: s) (m.lexeme.front tail) :=
    Lexeme.silent_cons_iff.2 ⟨Markers.read?_cons_of_ne hm _, hs⟩
  cases w with
  | keep => exact hs
  | separate => exact hspaced hs
  | separateSecond =>
    obtain ⟨rest, rfl, hopens⟩ := h.percent_mem_gap hp
    have hrest := hspaced (Lexeme.silent_cons_iff.1 hs).2
    exact Lexeme.silent_cons_iff.2 ⟨Markers.read?_percent_space hopens, hrest⟩
  | join => simpa using hdrop
  | oneSpace => simpa using hspaced hdrop

end Stencil.Adjacency
