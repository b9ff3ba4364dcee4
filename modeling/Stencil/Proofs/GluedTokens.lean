import Stencil.Proofs.FirstOccurrences
import Stencil.Proofs.Numerals
import Stencil.Proofs.Success
import Stencil.Proofs.TokenCut

/-!
# Glued tokens

Tokens written one right behind the other are found again as they were written, whatever the
markers are: their spans follow each other from the beginning of the text to its end, and no other
indices give the same text. The markers may overlap themselves and each other, because a token is
read wherever it is written and ends where it was written to end.
-/

namespace Stencil.Token

open Stencil.Text Stencil.Number

namespace Markers

variable (m : Markers)

/-- The tokens of indices, one right behind the other. -/
def glued (indices : List Nat) : List Char :=
  indices.flatMap m.render

/-- Whether spans follow each other from one place to another with nothing between them. -/
inductive Tiles : Nat → Nat → List Span → Prop
  | nil (n : Nat) : Tiles n n []
  | cons {stop : Nat} (span : Span) {more : List Span} (hmore : Tiles span.stop stop more) :
      Tiles span.start stop (span :: more)

def Span.covered (s : List Char) (span : Span) : List Char :=
  (s.drop span.start).take (span.stop - span.start)

/-- What is found in a text that is the tokens of these indices and nothing else. -/
structure Decoded (m : Markers) (s : List Char) (indices : List Nat) : Prop where
  tiles : Tiles 0 s.length (m.spans s)
  covered : (m.spans s).map (Span.covered s) = indices.map m.render
  digits : (m.spans s).map Span.digits = indices.map numeral
  counted : ∃ counts, m.count s = .ok counts ∧ (counts.map Prod.fst).Nodup ∧
    ∀ n k, (n, k) ∈ counts ↔ n ∈ indices ∧ k = indices.count n
  token : ∀ n ∈ indices, m.isToken (m.render n) = true ∧ m.index (m.render n) = .ok n
  unique : ∀ others, m.glued others = s → others = indices

variable {m} {indices : List Nat} {n : Nat}

/-! ### One token -/

theorem reads_numeral (n : Nat) : m.lexeme.Reads (numeral n) :=
  m.reads_iff.2 ⟨numeral_ne_nil n, isDecimal_of_mem_numeral⟩

theorem digits?_render (n : Nat) : m.digits? (m.render n) = some (numeral n) := by
  have hread := reads_numeral (m := m) n []
  rw [List.append_nil] at hread
  simp only [digits?, render, ← lexeme_written, hread]

theorem isToken_render (n : Nat) : m.isToken (m.render n) = true := by
  rw [isToken, digits?_render]
  rfl

theorem index_render (hn : (numeral n).length ≤ longest) : m.index (m.render n) = .ok n := by
  simp only [index, digits?_render, read_numeral hn]

/-! ### Many tokens -/

/-- The tokens of indices with nothing behind each. -/
def gluedTail (indices : List Nat) : List (List Char × List Char) :=
  indices.map fun n => (numeral n, [])

theorem woven_gluedTail (indices : List Nat) :
    woven m.token (gluedTail indices) = m.glued indices := by
  rw [woven, gluedTail, List.flatMap_map]
  simp only [List.append_nil]
  rfl

theorem apart_gluedTail (indices : List Nat) : m.lexeme.Apart [] (gluedTail indices) := by
  induction indices with
  | nil => exact Lexeme.silent_nil
  | cons n indices ih => exact ⟨Lexeme.silent_nil, reads_numeral n, ih⟩

theorem cut_glued (indices : List Nat) : m.cut (m.glued indices) = ⟨[], gluedTail indices⟩ := by
  rw [← woven_gluedTail]
  exact m.rigid_lexeme.cut_woven (apart_gluedTail indices)

theorem lexemes_glued (indices : List Nat) :
    (m.cut (m.glued indices)).lexemes = indices.map numeral := by
  rw [cut_glued, Cut.lexemes, gluedTail, List.map_map]
  rfl

theorem glued_injective : Function.Injective m.glued := by
  intro indices others h
  have hnumerals : indices.map numeral = others.map numeral := by
    rw [← lexemes_glued (m := m) indices, h, lexemes_glued]
  exact List.map_injective_iff.2 numeral_injective hnumerals

/-! ### Spans -/

theorem digits_spansFrom (start : Nat) (tail : List (List Char × List Char)) :
    (m.spansFrom start tail).map Span.digits = tail.map Prod.fst := by
  induction tail generalizing start with
  | nil => rfl
  | cons p more ih =>
    obtain ⟨digits, gap⟩ := p
    rw [spansFrom, List.map_cons, ih, List.map_cons]

theorem covered_spansFrom (before : List Char) (tail : List (List Char × List Char)) :
    (m.spansFrom before.length tail).map (Span.covered (before ++ woven m.token tail)) =
      tail.map fun p => m.token p.1 := by
  induction tail generalizing before with
  | nil => rfl
  | cons p more ih =>
    obtain ⟨digits, gap⟩ := p
    have hrest := ih (before ++ m.token digits ++ gap)
    simp only [List.length_append, List.append_assoc] at hrest
    rw [spansFrom, List.map_cons, List.map_cons, woven_cons, Nat.add_assoc before.length, hrest]
    simp [Span.covered]

theorem tiles_spansFrom (start : Nat) (indices : List Nat) :
    Tiles start (start + (m.glued indices).length) (m.spansFrom start (gluedTail indices)) := by
  induction indices generalizing start with
  | nil => exact .nil start
  | cons n indices ih =>
    have hmore := ih (start + (m.token (numeral n)).length)
    have hlength : (m.glued (n :: indices)).length =
        (m.token (numeral n)).length + (m.glued indices).length := by
      simp [glued, render]
    rw [hlength, ← Nat.add_assoc]
    exact .cons ⟨start, start + (m.token (numeral n)).length, numeral n⟩ hmore

/-! ### Counts -/

theorem mem_counts_iff {k : Nat} :
    (n, k) ∈ indices.eraseDups.map (fun i => (i, indices.count i)) ↔
      n ∈ indices ∧ k = indices.count n := by
  simp only [List.mem_map, List.mem_eraseDups, Prod.mk.injEq]
  constructor
  · rintro ⟨i, hi, rfl, rfl⟩
    exact ⟨hi, rfl⟩
  · rintro ⟨hn, rfl⟩
    exact ⟨n, hn, rfl, rfl⟩

theorem count_glued (hshort : ∀ n ∈ indices, (numeral n).length ≤ longest) :
    m.count (m.glued indices) =
      .ok (indices.eraseDups.map fun n => (n, indices.count n)) := by
  have hread : (indices.map numeral).mapM read = .ok indices := by
    rw [mapM_eq_ok_iff, List.map_map]
    exact List.map_congr_left fun n hn => read_numeral (hshort n hn)
  rw [count, lexemes_glued, hread]
  rfl

/-- Tokens that are written one right behind the other are decoded as the indices they were written
for, and as nothing else. -/
theorem decoded_glued (m : Markers) (indices : List Nat)
    (hshort : ∀ n ∈ indices, (numeral n).length ≤ longest) :
    Decoded m (m.glued indices) indices where
  tiles := by
    rw [spans, cut_glued]
    simpa using tiles_spansFrom 0 indices
  covered := by
    rw [spans, cut_glued, ← woven_gluedTail]
    have hcovered := covered_spansFrom (m := m) [] (gluedTail indices)
    rw [List.nil_append] at hcovered
    rw [hcovered, gluedTail, List.map_map]
    rfl
  digits := by
    rw [spans, cut_glued, digits_spansFrom, gluedTail, List.map_map]
    rfl
  counted := by
    refine ⟨_, count_glued hshort, ?_, fun n k => mem_counts_iff⟩
    rw [List.map_map]
    simpa [Function.comp_def] using nodup_eraseDups indices
  token n hn := ⟨isToken_render n, index_render (hshort n hn)⟩
  unique _ h := glued_injective h

/-- Markers that hold digits, each of which begins as the other ends. -/
def mirroredMarkers : Markers where
  opening := ['1', 'a']
  closing := ['a', '1']
  opening_ne_nil := by decide
  closing_ne_nil := by decide
  opening_digit := by rintro c ⟨⟩; decide
  closing_digit := by rintro c ⟨⟩; decide

theorem decoded_glued_mirroredMarkers :
    (∀ n ∈ [1, 10, 1, 0], (numeral n).length ≤ longest) ∧
      mirroredMarkers.glued [1, 10, 1, 0] = "1a1a11a10a11a1a11a0a1".toList ∧
      Decoded mirroredMarkers "1a1a11a10a11a1a11a0a1".toList [1, 10, 1, 0] := by
  have hshort : ∀ n ∈ [1, 10, 1, 0], (numeral n).length ≤ longest := by decide +kernel
  have hglued : mirroredMarkers.glued [1, 10, 1, 0] = "1a1a11a10a11a1a11a0a1".toList := by
    decide +kernel
  exact ⟨hshort, hglued, hglued ▸ decoded_glued mirroredMarkers [1, 10, 1, 0] hshort⟩

end Markers

end Stencil.Token
