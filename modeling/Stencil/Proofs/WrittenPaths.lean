import Stencil.Files.Path

/-!
# Paths and their texts

A path is read back from its text, so it may be handed on as one. The directory of a path may be
taken before or after the path is seen from another directory, unless the path has no part that
could be left out.
-/

namespace Stencil.Files

theorem splitSlashes_eq (s : List Char) : splitSlashes s = s.splitOn '/' := by
  induction s with
  | nil => simp [splitSlashes]
  | cons c s ih =>
    rw [splitSlashes, List.splitOn_cons_eq_if_modifyHead, ih]
    split
    · rfl
    · cases h : s.splitOn '/' with
      | nil => exact absurd h (List.splitOn_ne_nil '/' s)
      | cons part parts => rfl

theorem isMeant_iff {part : List Char} : isMeant part = true ↔ part ≠ [] ∧ part ≠ ['.'] := by
  simp [isMeant]

namespace Path

variable {base p : Path} {s : List Char}

/-! ### Reading what was written -/

theorem rootOf_cons_of_ne {c : Char} (hc : c ≠ '/') (s : List Char) : rootOf (c :: s) = .here := by
  unfold rootOf
  split <;> simp_all

theorem head?_intercalate (p : Path) : (['/'].intercalate p.parts).head? ≠ some '/' := by
  have h := p.proper
  cases hparts : p.parts with
  | nil => simp
  | cons part parts =>
    obtain ⟨hmeant, hslash⟩ := h part (by simp [hparts])
    obtain ⟨c, part, rfl⟩ := List.exists_cons_of_ne_nil (isMeant_iff.1 hmeant).1
    have hc : c ≠ '/' := by
      rintro rfl
      simp at hslash
    cases parts with
    | nil => simpa using hc
    | cons next parts => simpa [List.intercalate_cons_cons] using hc

theorem filter_splitSlashes_intercalate (p : Path) :
    (splitSlashes (['/'].intercalate p.parts)).filter isMeant = p.parts := by
  have h := p.proper
  cases hparts : p.parts with
  | nil => simp [splitSlashes, isMeant]
  | cons part parts =>
    have hslash : ∀ part' ∈ part :: parts, '/' ∉ part' :=
      fun part' hpart => (h part' (hparts ▸ hpart)).2
    rw [splitSlashes_eq, List.splitOn_intercalate '/' hslash (by simp), List.filter_eq_self]
    exact fun part' hpart => (h part' (hparts ▸ hpart)).1

theorem rootOf_append (root : Root) (hs : s.head? ≠ some '/') (hhere : root = .here → s ≠ []) :
    rootOf (root.text ++ s) = root := by
  cases s with
  | nil =>
    cases root with
    | here => exact absurd rfl (hhere rfl)
    | slash => rfl
    | slashes => rfl
  | cons c s =>
    have hc : c ≠ '/' := by simpa using hs
    cases root with
    | here => exact rootOf_cons_of_ne hc s
    | slash => simp [Root.text, rootOf, hc]
    | slashes => simp [Root.text, rootOf, hc]

theorem filter_splitSlashes_root (root : Root) (s : List Char) :
    (splitSlashes (root.text ++ s)).filter isMeant = (splitSlashes s).filter isMeant := by
  cases root <;> simp [Root.text, splitSlashes, isMeant]

theorem intercalate_ne_nil (hparts : p.parts ≠ []) : ['/'].intercalate p.parts ≠ [] := by
  intro hnil
  have hsplit := p.filter_splitSlashes_intercalate
  rw [hnil] at hsplit
  exact hparts hsplit.symm

theorem ofText_text (p : Path) : ofText p.text = p := by
  unfold text
  split
  · next hdot => exact Path.ext hdot.1.symm hdot.2.symm
  · next hdot =>
    have hhere : p.root = .here → ['/'].intercalate p.parts ≠ [] :=
      fun hroot => intercalate_ne_nil fun hparts => hdot ⟨hroot, hparts⟩
    apply Path.ext
    · exact rootOf_append p.root p.head?_intercalate hhere
    · exact (filter_splitSlashes_root p.root _).trans p.filter_splitSlashes_intercalate

theorem ofString_string (p : Path) : ofString p.string = p := by
  rw [ofString, string, String.toList_ofList, ofText_text]

/-! ### Seeing a path from a directory -/

theorem isAbsolute_join (h : base.isAbsolute = true) : (base.join p).isAbsolute = true := by
  unfold join
  split
  · assumption
  · exact h

theorem string_ne_empty (h : p.isAbsolute = true) : p.string.isEmpty = false := by
  have hroot : p.root ≠ .here := by simpa [isAbsolute] using h
  have htext : p.text ≠ [] := by
    unfold text
    rw [if_neg fun hdot => hroot hdot.1]
    intro hnil
    have hempty := (List.append_eq_nil_iff.1 hnil).1
    cases hp : p.root <;> simp_all [Root.text]
  simpa [string, Bool.eq_false_iff] using htext

/-- The directory of a path is the same before and after the path is seen from another directory. -/
theorem parent_join (h : p ≠ dot) : (base.join p).parent = base.join p.parent := by
  cases habsolute : p.isAbsolute with
  | true =>
    have hparent : p.parent.isAbsolute = true := habsolute
    rw [join_of_isAbsolute habsolute, join_of_isAbsolute hparent]
  | false =>
    have hparent : p.parent.isAbsolute = false := habsolute
    have hroot : p.root = .here := by simpa [isAbsolute] using habsolute
    have hparts : p.parts ≠ [] := fun hparts => h (Path.ext hroot hparts)
    simp only [join, habsolute, hparent, Bool.false_eq_true, if_false]
    simp [parent, List.dropLast_append_of_ne_nil hparts]

theorem join_dot (base : Path) : base.join dot = base := by
  simp [join, isAbsolute, dot]

end Path

end Stencil.Files
