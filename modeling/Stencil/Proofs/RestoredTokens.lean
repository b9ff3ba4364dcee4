import Mathlib.Control.Monad.Basic
import Stencil.Proofs.Decision
import Stencil.Proofs.Success

/-!
# The tokens of a restored style sheet

Blanks are removed and put in all over a style sheet while it is restored, and markers may be any
texts. Still the scan of the result finds the very tokens that were there: what was settled token by
token is the cut of the text that is written, `cut_settledText`.
-/

namespace Stencil.Adjacency

open Stencil.Text Stencil.Number Stencil.Token Stencil.Shield

/-- The tokens behind `before`, each with the gap behind it as it was settled. -/
def settled (m : Markers) (rules : List Rule) (before : List Char)
    (tail : List (List Char × List Char)) : List (List Char × List Char) :=
  (visit m.token (settle m rules) before tail).map fun t => (t.digits, t.gap)

def settledText (m : Markers) (rules : List Rule) (s : List Char) : List Char :=
  (settleAll m rules s).text m

variable {m : Markers} {rules : List Rule} {before digits gap s css out : List Char}
  {tail more : List (List Char × List Char)}

@[simp] theorem settled_nil : settled m rules before [] = [] := rfl

theorem settled_cons :
    settled m rules before ((digits, gap) :: more) =
      (digits, (chosen m rules ⟨before, gap ++ woven m.token more⟩).apply gap) ::
        settled m rules (before ++ m.token digits ++ gap) more := by
  simp [settled, visit, woven]

theorem settledText_eq (m : Markers) (rules : List Rule) (s : List Char) :
    settledText m rules s =
      (m.cut s).head ++ woven m.token (settled m rules (m.cut s).head (m.cut s).tail) := by
  simp [settledText, settleAll, Restored.text, settled, woven, List.flatMap_map]

@[simp] theorem map_fst_settled :
    (settled m rules before tail).map Prod.fst = tail.map Prod.fst := by
  induction tail generalizing before with
  | nil => rfl
  | cons q more ih =>
    obtain ⟨digits, gap⟩ := q
    simp [settled_cons, ih]

theorem front_settled :
    m.lexeme.front (settled m rules before tail) = m.lexeme.front tail := by
  cases tail with
  | nil => rfl
  | cons q more =>
    obtain ⟨digits, gap⟩ := q
    rw [settled_cons]
    rfl

theorem reads_settled (h : ∀ q ∈ tail, m.lexeme.Reads q.1) :
    ∀ q ∈ settled m rules before tail, m.lexeme.Reads q.1 := by
  intro q hq
  have hmem : q.1 ∈ (settled m rules before tail).map Prod.fst := List.mem_map_of_mem hq
  rw [map_fst_settled] at hmem
  obtain ⟨q', hq', he⟩ := List.mem_map.1 hmem
  exact he ▸ h q' hq'

/-- Tokens that stand apart still do so when every gap behind one of them was settled. -/
theorem apart_settled (hm : m.opening.head? ≠ some ' ') (h : m.lexeme.Apart gap tail) :
    m.lexeme.Apart gap (settled m rules before tail) := by
  induction tail generalizing gap before with
  | nil => exact h
  | cons q more ih =>
    obtain ⟨digits, next⟩ := q
    obtain ⟨hgap, hreads, hnext⟩ := h
    rw [settled_cons]
    refine ⟨hgap, hreads, (ih hnext).replace ?_⟩
    rw [front_settled]
    exact (justified_chosen m rules _).silent_apply hm rfl hnext.silent

theorem cut_settledText (hm : m.opening.head? ≠ some ' ') (rules : List Rule) (s : List Char) :
    m.cut (settledText m rules s) =
      ⟨(m.cut s).head, settled m rules (m.cut s).head (m.cut s).tail⟩ := by
  refine m.rigid_lexeme.cut_eq_iff.2 ⟨(settledText_eq m rules s).symm, ?_⟩
  exact apart_settled hm (m.rigid_lexeme.apart_cut s)

theorem restoreText_eq_ok_iff : restoreText m css rules = .ok out ↔
    ∃ s, unshield m css = .ok s ∧ settledText m rules s = out := by
  simp only [restoreText, restore, bind_eq_ok_iff, pure_eq_ok_iff]
  constructor
  · rintro ⟨r, ⟨s, hs, rfl⟩, rfl⟩
    exact ⟨s, hs, rfl⟩
  · rintro ⟨s, hs, rfl⟩
    exact ⟨_, ⟨s, hs, rfl⟩, rfl⟩

/-- Restoring a style sheet keeps every token, character for character and in order, if the opening
marker does not begin with a space. -/
theorem tokens_restoreText (hm : m.opening.head? ≠ some ' ')
    (h : restoreText m css rules = .ok out) :
    ∃ s, unshield m css = .ok s ∧ m.tokens out = m.tokens s := by
  obtain ⟨s, hs, rfl⟩ := restoreText_eq_ok_iff.1 h
  refine ⟨s, hs, ?_⟩
  unfold Markers.tokens Cut.lexemes
  rw [cut_settledText hm, map_fst_settled]

/-- Markers of a single percent sign, so that every sign may begin a token or end one. -/
def percentMarkers : Markers where
  opening := ['%']
  closing := ['%']
  opening_ne_nil := by decide
  closing_ne_nil := by decide
  opening_digit := by rintro c ⟨⟩; decide
  closing_digit := by rintro c ⟨⟩; decide

theorem tokens_restoreText_percentMarkers :
    percentMarkers.opening.head? ≠ some ' ' ∧
      restoreText percentMarkers "a:%1%%%2% px __sjx_pct_3__%04% %;%5".toList =
        .ok "a:%1% %%2%px %3% %%04% %;%5".toList ∧
      ∃ s, unshield percentMarkers "a:%1%%%2% px __sjx_pct_3__%04% %;%5".toList = .ok s ∧
        percentMarkers.tokens "a:%1% %%2%px %3% %%04% %;%5".toList = percentMarkers.tokens s := by
  have h : restoreText percentMarkers "a:%1%%%2% px __sjx_pct_3__%04% %;%5".toList =
      .ok "a:%1% %%2%px %3% %%04% %;%5".toList := by decide +kernel
  exact ⟨by decide, h, tokens_restoreText (by decide) h⟩

end Stencil.Adjacency
