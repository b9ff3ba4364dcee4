import Stencil.Proofs.LineBreaks
import Stencil.Proofs.NumberedLines
import Stencil.Proofs.RunFaults

/-!
# Indentation of whole texts

A source may be moved to the right as a whole: the same spaces and tabs are put in front of every
line that is not blank. The margin grows by them, and what is left without it is the same. So the
text without its common indentation does not depend on how far the source was moved, and a line that
does not begin with the margin is refused wherever it was moved to: `stripIndent_indentBy`.
-/

namespace Stencil.Source

open Stencil.Text

variable {s p edge line out : List Char} {lines : List (List Char)}

/-- Whether a line is not blank and does not begin with `edge`. -/
structure Stray (edge line : List Char) : Prop where
  not_blank : allBlank line = false
  not_prefix : ¬ edge <+: line

instance : Decidable (Stray edge line) :=
  decidable_of_iff (allBlank line = false ∧ ¬ edge <+: line)
    ⟨fun h => ⟨h.1, h.2⟩, fun h => ⟨h.not_blank, h.not_prefix⟩⟩

theorem outdentLine_eq_none_iff : outdentLine edge line = none ↔ Stray edge line := by
  unfold outdentLine
  split_ifs with hblank
  · constructor
    · intro h
      cases h
    · rintro ⟨hnot, -⟩
      exact absurd (hblank.symm.trans hnot) (by decide)
  · rw [after?_eq_none_iff]
    exact ⟨fun h => ⟨by simpa using hblank, h⟩, Stray.not_prefix⟩

/-- What is left of a line without `edge`; nothing is left of a blank line. -/
def outdented (edge line : List Char) : List Char :=
  if allBlank line then [] else line.drop edge.length

theorem eq_outdented_of_outdentLine {rest : List Char} (h : outdentLine edge line = some rest) :
    outdented edge line = rest := by
  unfold outdentLine at h
  unfold outdented
  split_ifs at h ⊢
  · exact Option.some.inj h
  · rw [after?_eq_some_iff.1 h, List.drop_left]

theorem outdentLine_eq_some_iff {rest : List Char} :
    outdentLine edge line = some rest ↔ ¬ Stray edge line ∧ outdented edge line = rest := by
  constructor
  · intro h
    refine ⟨fun hstray => ?_, eq_outdented_of_outdentLine h⟩
    rw [outdentLine_eq_none_iff.2 hstray] at h
    cases h
  · rintro ⟨hnot, rfl⟩
    obtain ⟨rest, h⟩ := Option.ne_none_iff_exists'.1 (mt outdentLine_eq_none_iff.1 hnot)
    rw [h, eq_outdented_of_outdentLine h]

theorem lineByLine_outdentLines (edge : List Char) :
    LineByLine (outdentLine edge) (fun number _ => ⟨number, edge.length⟩) (outdentLines edge) where
  nil _ := rfl
  cons _ _ _ := rfl

theorem stripIndent_eq (s : List Char) : stripIndent s =
    (outdentLines (margin (splitLines s)) 1 (splitLines s)).map joinNewlines := rfl

theorem stripIndent_eq_ok_iff : stripIndent s = .ok out ↔
    (∀ line ∈ splitLines s, ¬ Stray (margin (splitLines s)) line) ∧
      out = joinNewlines ((splitLines s).map (outdented (margin (splitLines s)))) := by
  have hmap (edge : List Char) (lines rests : List (List Char)) :
      List.Forall₂ (fun line rest => outdented edge line = rest) lines rests ↔
        lines.map (outdented edge) = rests := by
    rw [← List.forall₂_map_left_iff, List.forall₂_eq_eq_eq]
  simp only [stripIndent_eq, map_eq_ok_iff, (lineByLine_outdentLines _).eq_ok_iff,
    outdentLine_eq_some_iff, List.forall₂_and_left, hmap]
  constructor
  · rintro ⟨_, ⟨hall, rfl⟩, rfl⟩
    exact ⟨hall, rfl⟩
  · rintro ⟨hall, rfl⟩
    exact ⟨_, ⟨hall, rfl⟩, rfl⟩

/-- A text is refused at its first line that is not blank and does not begin with the margin. -/
theorem stripIndent_eq_error_iff {e : Misindented} : stripIndent s = .error e ↔
    ∃ number line, FirstLine (Stray (margin (splitLines s))) (splitLines s) number line ∧
      e = ⟨number, (margin (splitLines s)).length⟩ := by
  simp only [stripIndent, map_eq_error_iff, outdentLine_eq_none_iff,
    (lineByLine_outdentLines _).eq_error_iff_firstLine]

/-! ### More indentation -/

/-- A line with `p` in front of it, unless it is blank. -/
def indentLine (p line : List Char) : List Char :=
  if allBlank line then line else p ++ line

/-- A text with `p` in front of every line that is not blank. -/
def indentBy (p s : List Char) : List Char :=
  mapLines (indentLine p) s

theorem indentLine_eq_nil_iff (p line : List Char) : indentLine p line = [] ↔ line = [] := by
  unfold indentLine
  split_ifs with hblank
  · rfl
  · rw [List.append_eq_nil_iff]
    constructor
    · exact And.right
    · rintro rfl
      exact absurd rfl hblank

theorem allBlank_indentLine (p line : List Char) :
    allBlank (indentLine p line) = allBlank line := by
  unfold indentLine
  split_ifs with hblank
  · rfl
  · simp only [allBlank] at hblank ⊢
    simp [hblank]

theorem unbroken_indentLine (hp : ∀ c ∈ p, isIndent c = true) (hline : Unbroken line) :
    Unbroken (indentLine p line) := by
  unfold indentLine
  split_ifs
  · exact hline
  · exact List.forall_mem_append.2 ⟨fun c hc => isLineBreak_of_isIndent (hp c hc), hline⟩

theorem splitLines_indentBy (hp : ∀ c ∈ p, isIndent c = true) (s : List Char) :
    splitLines (indentBy p s) = (splitLines s).map (indentLine p) :=
  splitLines_mapLines (fun _ => unbroken_indentLine hp) (indentLine_eq_nil_iff p) s

/-- The margin has `p` in front, if there is a line that has a margin. -/
theorem margin_map_indentLine (hp : ∀ c ∈ p, isIndent c = true)
    (h : ∃ line ∈ lines, allBlank line = false) :
    margin (lines.map (indentLine p)) = p ++ margin lines := by
  induction lines with
  | nil => simp at h
  | cons line lines ih =>
    unfold margin at ih ⊢
    rw [List.map_cons]
    cases hblank : allBlank line with
    | true =>
      have hmore : ∃ line ∈ lines, allBlank line = false := by
        obtain ⟨l, hl, hnot⟩ := h
        rcases List.mem_cons.1 hl with rfl | hl
        · exact absurd (hblank.symm.trans hnot) (by decide)
        · exact ⟨l, hl, hnot⟩
      rw [List.find?_cons_of_neg (by simp [allBlank_indentLine, hblank]),
        List.find?_cons_of_neg (by simp [hblank])]
      exact ih hmore
    | false =>
      rw [List.find?_cons_of_pos (by simp [allBlank_indentLine, hblank]),
        List.find?_cons_of_pos (by simp [hblank])]
      simp only [indentLine, hblank, Bool.false_eq_true, if_false]
      exact List.takeWhile_append_of_pos hp

theorem outdentLine_indentLine (p edge line : List Char) :
    outdentLine (p ++ edge) (indentLine p line) = outdentLine edge line := by
  unfold outdentLine
  rw [allBlank_indentLine]
  split_ifs with hblank
  · rfl
  · ext rest
    simp [after?_eq_some_iff, indentLine, hblank]

theorem outdentLines_map_indentLine (p edge : List Char) (number : Nat)
    (lines : List (List Char)) :
    outdentLines (p ++ edge) number (lines.map (indentLine p)) =
      (outdentLines edge number lines).mapError fun e => ⟨e.line, p.length + e.width⟩ := by
  induction lines generalizing number with
  | nil => rfl
  | cons line lines ih =>
    rw [List.map_cons, outdentLines, outdentLines, outdentLine_indentLine, ih]
    cases outdentLine edge line with
    | none => simp [Except.mapError]
    | some rest => cases outdentLines edge (number + 1) lines <;> rfl

theorem outdentLines_of_allBlank (h : ∀ line ∈ lines, allBlank line = true) (edge : List Char)
    (number : Nat) : outdentLines edge number lines = .ok (lines.map fun _ => []) := by
  induction lines generalizing number with
  | nil => rfl
  | cons line lines ih =>
    obtain ⟨hline, hlines⟩ := List.forall_mem_cons.1 h
    rw [outdentLines, outdentLine, if_pos hline, ih hlines]
    rfl

/-- Moving a text to the right does not change what becomes of it without its common indentation;
if it is refused, a wider margin is asked for. -/
theorem stripIndent_indentBy_eq (hp : ∀ c ∈ p, isIndent c = true) (s : List Char) :
    stripIndent (indentBy p s) =
      (stripIndent s).mapError fun e => ⟨e.line, p.length + e.width⟩ := by
  rw [stripIndent_eq, stripIndent_eq, splitLines_indentBy hp]
  by_cases h : ∃ line ∈ splitLines s, allBlank line = false
  · rw [margin_map_indentLine hp h, outdentLines_map_indentLine]
    cases outdentLines (margin (splitLines s)) 1 (splitLines s) <;> rfl
  · have hblank : ∀ line ∈ splitLines s, allBlank line = true := by
      intro line hline
      by_contra hnot
      exact h ⟨line, hline, by simpa using hnot⟩
    have hsame : (splitLines s).map (indentLine p) = splitLines s :=
      (List.map_congr_left fun line hline => if_pos (hblank line hline)).trans (List.map_id' _)
    rw [hsame, outdentLines_of_allBlank hblank]
    rfl

theorem assembled_indented_iff {o : Options} (hdialect : o.dialect = .indented) :
    assembled o s = .ok out ↔ ∃ text, stripIndent s = .ok text ∧ out = withPreamble o text := by
  unfold assembled unindented
  simp only [hdialect, bind_eq_ok_iff, mapError_eq_ok_iff, pure_eq_ok_iff]

/-- A text that is moved to the right loses as much indentation more. Either every line begins with
the margin or is blank, and without the margin the same is left; or both texts are refused at the
same line, which is the first one that is not blank and does not begin with the margin. In the
indented dialect both are staged alike. -/
theorem stripIndent_indentBy (hp : ∀ c ∈ p, isIndent c = true) (s : List Char) :
    ((∀ line ∈ splitLines s, ¬ Stray (margin (splitLines s)) line) ∧
        (∃ out, out = joinNewlines ((splitLines s).map (outdented (margin (splitLines s)))) ∧
          stripIndent s = .ok out ∧ stripIndent (indentBy p s) = .ok out) ∨
      ∃ number line, FirstLine (Stray (margin (splitLines s))) (splitLines s) number line ∧
        stripIndent s = .error ⟨number, (margin (splitLines s)).length⟩ ∧
        stripIndent (indentBy p s) =
          .error ⟨number, p.length + (margin (splitLines s)).length⟩) ∧
    ∀ o : Options, o.dialect = .indented → ∀ staged,
      stage (indentBy p s) o = .ok staged ↔ stage s o = .ok staged := by
  have heq := stripIndent_indentBy_eq hp s
  constructor
  · cases h : stripIndent s with
    | ok out =>
      obtain ⟨hlines, hout⟩ := stripIndent_eq_ok_iff.1 h
      rw [h] at heq
      exact .inl ⟨hlines, out, hout, rfl, heq⟩
    | error e =>
      obtain ⟨number, line, hfirst, rfl⟩ := stripIndent_eq_error_iff.1 h
      rw [h] at heq
      exact .inr ⟨number, line, hfirst, rfl, heq⟩
  · intro o hdialect staged
    simp only [stage_eq_ok_iff, assembled_indented_iff hdialect, heq, mapError_eq_ok_iff]

def marginSheet (last : String) : List Char :=
  ("\n  a\r\n    b: c\u2028\u2003\n" ++ last).toList

def outdentedSheet : List Char :=
  "\na\n  b: c\n\nd".toList

theorem stripIndent_indentBy_marginSheet :
    indentBy "\t ".toList (marginSheet "  d") =
        "\n\t   a\r\n\t     b: c\u2028\u2003\n\t   d".toList ∧
      stripIndent (indentBy "\t ".toList (marginSheet "  d")) = .ok outdentedSheet ∧
      stage (indentBy "\t ".toList (marginSheet "  d")) { dialect := .indented } =
        .ok ⟨outdentedSheet, .indented, []⟩ ∧
      stripIndent (marginSheet " d") = .error ⟨5, 2⟩ ∧
      stripIndent (indentBy "\t ".toList (marginSheet " d")) = .error ⟨5, 4⟩ := by
  have hp : ∀ c ∈ "\t ".toList, isIndent c = true := List.all_eq_true.1 (by decide +kernel)
  have hok : stripIndent (marginSheet "  d") = .ok outdentedSheet := by decide +kernel
  have hrefused : stripIndent (marginSheet " d") = .error ⟨5, 2⟩ := by decide +kernel
  have hstage : stage (marginSheet "  d") { dialect := .indented } =
      .ok ⟨outdentedSheet, .indented, []⟩ :=
    stage_eq_ok_iff.2 ⟨outdentedSheet, outdentedSheet, outdentedSheet,
      (assembled_indented_iff rfl).2 ⟨_, hok, rfl⟩, by decide +kernel, by decide +kernel,
      by decide +kernel, rfl⟩
  refine ⟨by decide +kernel, ?_, ((stripIndent_indentBy hp _).2 _ rfl _).2 hstage, hrefused, ?_⟩
  · rcases (stripIndent_indentBy hp (marginSheet "  d")).1 with
      ⟨-, out, -, h, hmoved⟩ | ⟨n, l, -, h, -⟩
    · rw [hmoved, ← h, hok]
    · exact absurd (hok.symm.trans h) (by simp)
  · rcases (stripIndent_indentBy hp (marginSheet " d")).1 with
      ⟨-, out, -, h, -⟩ | ⟨n, l, -, h, hmoved⟩
    · exact absurd (hrefused.symm.trans h) (by simp)
    · obtain ⟨rfl, hwidth⟩ : 5 = n ∧ 2 = _ := by simpa using hrefused.symm.trans h
      rw [hmoved, ← hwidth]
      rfl

end Stencil.Source
