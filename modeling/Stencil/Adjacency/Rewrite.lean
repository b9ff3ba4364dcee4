import Stencil.Text.Blank

/-!
# Rewrites

The five things that can be done to the gap behind a token. None of them touches anything but style
blanks at the front of the gap: `filter_apply`.
-/

namespace Stencil.Adjacency

open Stencil.Text

/-- What is done to the gap behind a token. -/
inductive Rewrite where
  | keep
  | separate
  /-- A space is put behind the first character. -/
  | separateSecond
  | join
  | oneSpace
  deriving DecidableEq, Repr

namespace Rewrite

/-- The text that is written in the place of what is removed. -/
def inserted : Rewrite → List Char
  | keep => []
  | separate => [' ']
  | separateSecond => ['%', ' ']
  | join => []
  | oneSpace => [' ']

/-- How many characters behind the token are removed. -/
def removed (after : List Char) : Rewrite → Nat
  | keep => 0
  | separate => 0
  | separateSecond => 1
  | join => (after.takeWhile isStyleBlank).length
  | oneSpace => (after.takeWhile isStyleBlank).length

def apply (r : Rewrite) (gap : List Char) : List Char :=
  r.inserted ++ gap.drop (r.removed gap)

theorem drop_length_takeWhile (p : Char → Bool) (s : List Char) :
    s.drop (s.takeWhile p).length = s.dropWhile p := by
  conv => lhs; arg 2; rw [← List.takeWhile_append_dropWhile (p := p) (l := s)]
  exact List.drop_left

@[simp] theorem apply_keep (gap : List Char) : keep.apply gap = gap := rfl

@[simp] theorem apply_separate (gap : List Char) : separate.apply gap = ' ' :: gap := rfl

@[simp] theorem apply_join (gap : List Char) : join.apply gap = gap.dropWhile isStyleBlank :=
  drop_length_takeWhile _ gap

@[simp] theorem apply_oneSpace (gap : List Char) :
    oneSpace.apply gap = ' ' :: gap.dropWhile isStyleBlank :=
  congrArg _ (drop_length_takeWhile _ gap)

theorem filter_dropWhile (s : List Char) :
    (s.dropWhile isStyleBlank).filter (fun c => !isStyleBlank c) =
      s.filter fun c => !isStyleBlank c := by
  induction s with
  | nil => rfl
  | cons c s ih => cases h : isStyleBlank c <;> simp_all

theorem filter_apply (r : Rewrite) (gap : List Char)
    (h : r = separateSecond → ∃ rest, gap = '%' :: rest) :
    (r.apply gap).filter (fun c => !isStyleBlank c) = gap.filter fun c => !isStyleBlank c := by
  have hs : isStyleBlank ' ' = true := rfl
  cases r with
  | keep => rfl
  | separate => simp [hs]
  | separateSecond =>
    obtain ⟨rest, rfl⟩ := h rfl
    simp [apply, inserted, removed, hs, List.filter_cons]
  | join => rw [apply_join, filter_dropWhile]
  | oneSpace => rw [apply_oneSpace, List.filter_cons, hs]; simpa using filter_dropWhile gap

end Rewrite

end Stencil.Adjacency
