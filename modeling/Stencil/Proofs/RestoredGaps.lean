import Mathlib.Data.List.Forall2
import Stencil.Proofs.RestoredTokens

/-!
# What becomes of the gaps

Restoring a style sheet may also be done in one pass with a cursor: the text up to a token is copied
from the cursor on, and the rule moves the cursor past what it removes. The blanks that a rule
removes may go on into the next token, if markers begin with blanks, and then the cursor runs ahead
of that token. The pass still drops nothing and writes nothing twice: it makes the text that is made
gap by gap, `sweep_spans`.
-/

namespace Stencil.Adjacency

open Stencil.Text Stencil.Number Stencil.Token Stencil.Shield

/-- What may become of a gap: it stays, a space is put in front of it or behind a percent sign that
it begins with, or the style blanks that it begins with are removed or become one space. -/
inductive Adjusted : List Char → List Char → Prop
  | same (gap : List Char) : Adjusted gap gap
  | spaced (gap : List Char) : Adjusted gap (' ' :: gap)
  | percentSpaced (rest : List Char) : Adjusted ('%' :: rest) ('%' :: ' ' :: rest)
  | joined (gap : List Char) : Adjusted gap (gap.dropWhile isStyleBlank)
  | oneSpace (gap : List Char) : Adjusted gap (' ' :: gap.dropWhile isStyleBlank)

/-- One pass over the tokens of `text` from the cursor `pos` on. -/
def sweep (m : Markers) (rules : List Rule) (text : List Char) :
    Nat → List Markers.Span → List Char
  | pos, [] => text.drop pos
  | pos, t :: more =>
    let p : Place := ⟨text.take t.start, text.drop t.stop⟩
    let w := chosen m rules p
    text.extract pos t.start ++ text.extract t.start t.stop ++ w.inserted ++
      sweep m rules text (t.stop + w.removed p.after) more

variable {m : Markers} {rules : List Rule} {css out : List Char}
  {tail tail' : List (List Char × List Char)}

theorem drop_length_takeWhile_append (p : Char → Bool) (s t : List Char) :
    s.drop ((s ++ t).takeWhile p).length = s.drop (s.takeWhile p).length := by
  rw [List.takeWhile_append]
  split
  · next h => simp [h]
  · rfl

theorem drop_removed_append (w : Rewrite) (gap rest : List Char) :
    gap.drop (w.removed (gap ++ rest)) = gap.drop (w.removed gap) := by
  cases w with
  | keep => rfl
  | separate => rfl
  | separateSecond => rfl
  | join => exact drop_length_takeWhile_append _ gap rest
  | oneSpace => exact drop_length_takeWhile_append _ gap rest

theorem extract_gap (before gap rest : List Char) (k : Nat) :
    (before ++ (gap ++ rest)).extract (before.length + k) (before.length + gap.length) =
      gap.drop k := by
  rw [List.extract_eq_take_drop, List.drop_length_add_append, List.drop_append,
    show before.length + gap.length - (before.length + k) = gap.length - k by omega]
  exact List.take_left' (by simp)

theorem sweep_cons {text before token after : List Char} (htext : text = before ++ (token ++ after))
    (pos : Nat) (digits : List Char) (more : List Markers.Span) :
    sweep m rules text pos (⟨before.length, before.length + token.length, digits⟩ :: more) =
      text.extract pos before.length ++ token ++ (chosen m rules ⟨before, after⟩).inserted ++
        sweep m rules text
          (before.length + token.length + (chosen m rules ⟨before, after⟩).removed after) more := by
  have htoken : text.extract before.length (before.length + token.length) = token := by
    rw [htext]
    exact extract_gap before token after 0
  have hbefore : text.take before.length = before := by rw [htext, List.take_left]
  have hafter : text.drop (before.length + token.length) = after := by
    rw [htext, List.drop_length_add_append, List.drop_left]
  simp only [sweep, htoken, hbefore, hafter]

/-- The pass over the tokens behind `before` and `gap`, with the cursor `k` characters behind
`before`. -/
theorem sweep_spansFrom (m : Markers) (rules : List Rule) (before gap : List Char) (k : Nat)
    (tail : List (List Char × List Char)) :
    sweep m rules (before ++ (gap ++ woven m.token tail)) (before.length + k)
        (m.spansFrom (before ++ gap).length tail) =
      gap.drop k ++ woven m.token (settled m rules (before ++ gap) tail) := by
  induction tail generalizing before gap k with
  | nil => simp [Markers.spansFrom, sweep, List.drop_length_add_append]
  | cons q more ih =>
    obtain ⟨digits, next⟩ := q
    have hlength : (before ++ gap).length + (m.token digits).length =
        (before ++ gap ++ m.token digits).length := List.length_append.symm
    have hnext : (before ++ gap ++ m.token digits).length + next.length =
        (before ++ gap ++ m.token digits ++ next).length := List.length_append.symm
    have htext : before ++ (gap ++ (m.token digits ++ (next ++ woven m.token more))) =
        before ++ gap ++ (m.token digits ++ (next ++ woven m.token more)) :=
      (List.append_assoc before gap _).symm
    have hcopied : (before ++ gap ++ (m.token digits ++ (next ++ woven m.token more))).extract
        (before.length + k) (before ++ gap).length = gap.drop k := by
      rw [← htext, List.length_append]
      exact extract_gap before gap _ k
    have hrest (j : Nat) := ih (before ++ gap ++ m.token digits) next j
    simp only [List.append_assoc (before ++ gap)] at hrest
    rw [woven_cons, Markers.spansFrom, htext, sweep_cons rfl, hcopied]
    simp only [hlength, hnext]
    rw [List.append_assoc (before ++ gap), hrest, drop_removed_append, settled_cons, woven_cons,
      Rewrite.apply]
    simp only [List.append_assoc]

/-- The pass makes the text that is made gap by gap. -/
theorem sweep_spans (m : Markers) (rules : List Rule) (s : List Char) :
    sweep m rules s 0 (m.spans s) = settledText m rules s := by
  have h := sweep_spansFrom m rules [] (m.cut s).head 0 (m.cut s).tail
  have hs : (m.cut s).head ++ woven m.token (m.cut s).tail = s := m.lexeme.weave_cut s
  rw [settledText_eq]
  simpa [hs, Markers.spans] using h

theorem Adjusted.filter_eq {gap gap' : List Char} (h : Adjusted gap gap') :
    gap'.filter (fun c => !isStyleBlank c) = gap.filter fun c => !isStyleBlank c := by
  cases h with
  | same => rfl
  | spaced => exact Rewrite.filter_apply .separate gap (by simp)
  | percentSpaced rest =>
    exact Rewrite.filter_apply .separateSecond ('%' :: rest) fun _ => ⟨rest, rfl⟩
  | joined => exact Rewrite.filter_dropWhile gap
  | oneSpace => simpa using Rewrite.filter_apply .oneSpace gap (by simp)

theorem Justified.adjusted {p : Place} {w : Rewrite} {gap : List Char} (h : Justified m p w)
    (hp : p.after = gap ++ woven m.token tail) : Adjusted gap (w.apply gap) := by
  cases w with
  | keep => exact .same gap
  | separate => exact .spaced gap
  | separateSecond =>
    obtain ⟨rest, rfl, -⟩ := h.percent_mem_gap hp
    exact .percentSpaced rest
  | join => simpa using Adjusted.joined gap
  | oneSpace => simpa using Adjusted.oneSpace gap

/-- Whether two texts in pieces have the same tokens and each gap of the second is an adjusted gap
of the first. -/
def AdjustedTail (tail tail' : List (List Char × List Char)) : Prop :=
  List.Forall₂ (fun t t' => t'.1 = t.1 ∧ Adjusted t.2 t'.2) tail tail'

theorem adjustedTail_settled (before : List Char) :
    AdjustedTail tail (settled m rules before tail) := by
  induction tail generalizing before with
  | nil => exact .nil
  | cons q more ih =>
    obtain ⟨digits, gap⟩ := q
    rw [settled_cons]
    exact .cons ⟨rfl, (justified_chosen m rules _).adjusted rfl⟩ (ih _)

theorem AdjustedTail.filter_eq (h : AdjustedTail tail tail') :
    (woven m.token tail').filter (fun c => !isStyleBlank c) =
      (woven m.token tail).filter fun c => !isStyleBlank c := by
  induction h with
  | nil => rfl
  | cons ht _ ih =>
    obtain ⟨he, ha⟩ := ht
    simp only [woven, List.flatMap_cons, List.filter_append] at ih ⊢
    rw [he, ha.filter_eq, ih]

/-- Restoring a style sheet touches nothing but style blanks right behind tokens, whatever rules are
used: every gap stays or is adjusted. The same text is made in one pass with a cursor. Style blanks
apart nothing changes, and a text without tokens stays as it is. -/
theorem restoreText_gaps (h : restoreText m css rules = .ok out) :
    ∃ s, unshield m css = .ok s ∧ out = sweep m rules s 0 (m.spans s) ∧
      (∃ tail, AdjustedTail (m.cut s).tail tail ∧
        out = Cut.weave m.token ⟨(m.cut s).head, tail⟩) ∧
      out.filter (fun c => !isStyleBlank c) = s.filter (fun c => !isStyleBlank c) ∧
      (m.tokens s = [] → out = s) := by
  obtain ⟨s, hs, rfl⟩ := restoreText_eq_ok_iff.1 h
  have hadj : AdjustedTail (m.cut s).tail (settled m rules (m.cut s).head (m.cut s).tail) :=
    adjustedTail_settled (m.cut s).head
  have hw : (m.cut s).head ++ woven m.token (m.cut s).tail = s := m.lexeme.weave_cut s
  have hout := settledText_eq m rules s
  refine ⟨s, hs, (sweep_spans m rules s).symm, ⟨_, hadj, hout⟩, ?_, fun hnone => ?_⟩
  · conv => rhs; rw [← hw]
    rw [hout, List.filter_append, List.filter_append, hadj.filter_eq]
  · have ht : (m.cut s).tail = [] := by
      simpa [Markers.tokens, Cut.lexemes] using hnone
    rw [hout, ht, settled_nil]
    conv => rhs; rw [← hw, ht]

/-- Markers that begin with a space and a unit. The cursor runs ahead of a token of theirs when the
one before it is followed by blanks. -/
def unitMarkers : Markers where
  opening := " px<".toList
  closing := ['>']
  opening_ne_nil := by decide +kernel
  closing_ne_nil := by decide
  opening_digit := by
    have h : (Markers.touching " px<".toList ['>']).any isDigit = false := by decide +kernel
    exact (Markers.digit_of_touching h).1
  closing_digit := by rintro c ⟨⟩; decide

theorem restoreText_gaps_unitMarkers :
    restoreText unitMarkers "a px<1>\t px<2> %\n;".toList [.percentSuffix, .unitSuffix] =
        .ok "a px<1> px<2>%\n;".toList ∧
      ∃ s, unshield unitMarkers "a px<1>\t px<2> %\n;".toList = .ok s ∧
        "a px<1> px<2>%\n;".toList =
          sweep unitMarkers [.percentSuffix, .unitSuffix] s 0 (unitMarkers.spans s) ∧
        (∃ tail, AdjustedTail (unitMarkers.cut s).tail tail ∧ "a px<1> px<2>%\n;".toList =
          Cut.weave unitMarkers.token ⟨(unitMarkers.cut s).head, tail⟩) ∧
        "a px<1> px<2>%\n;".toList.filter (fun c => !isStyleBlank c) =
          s.filter (fun c => !isStyleBlank c) ∧
        (unitMarkers.tokens s = [] → "a px<1> px<2>%\n;".toList = s) := by
  have h : restoreText unitMarkers "a px<1>\t px<2> %\n;".toList [.percentSuffix, .unitSuffix] =
      .ok "a px<1> px<2>%\n;".toList := by decide +kernel
  exact ⟨h, restoreText_gaps h⟩

end Stencil.Adjacency
