import Stencil.Text.Blank
import Stencil.Text.Lines

/-!
# Line breaks

A text is its lines, each with the break that ends it (`endedLines`). Lines whose breaks fit what is
behind them are found again in the text they make up, so the lines of a text can be exchanged for
others one by one: `splitLines_mapLines`.
-/

namespace Stencil.Text

variable {s line mark : List Char} {c : Char}

theorem isBlank_of_isLineBreak (hc : isLineBreak c = true) : isBlank c = true := by
  simp only [isLineBreak, isBlank, Bool.or_eq_true, Bool.and_eq_true, decide_eq_true_eq,
    beq_iff_eq] at hc ⊢
  omega

theorem isLineBreak_of_isIndent (hc : isIndent c = true) : isLineBreak c = false := by
  rcases isIndent_iff.1 hc with rfl | rfl <;> decide

theorem splitLines_cons (hc : isLineBreak c = false) (s : List Char) :
    splitLines (c :: s) = (c :: (splitLines s).headD []) :: (splitLines s).tail := by
  have hne : c ≠ '\r' := by
    rintro rfl
    exact absurd hc (by decide)
  rw [splitLines, if_neg (by simpa using hc)]
  · cases splitLines s <;> rfl
  · intro _ he
    exact absurd he hne

/-- A line break ends an empty line, also if one break more belongs to it. -/
theorem splitLines_cons_of_isLineBreak (hc : isLineBreak c = true) (s : List Char) :
    ∃ lines, splitLines (c :: s) = [] :: lines ∧
      (lines = splitLines s ∨ splitLines s = [] :: lines) := by
  by_cases hpair : c = '\r' ∧ ∃ t, s = '\n' :: t
  · obtain ⟨rfl, t, rfl⟩ := hpair
    exact ⟨splitLines t, rfl, .inr rfl⟩
  · refine ⟨splitLines s, ?_, .inl rfl⟩
    rw [splitLines, if_pos hc]
    intro t hreturn hfeed
    exact hpair ⟨hreturn, t, hfeed⟩

theorem headD_splitLines (s : List Char) :
    (splitLines s).headD [] = s.takeWhile fun c => !isLineBreak c := by
  induction s with
  | nil => rfl
  | cons c s ih =>
    cases hc : isLineBreak c with
    | false =>
      rw [splitLines_cons hc, ih]
      simp [hc]
    | true =>
      obtain ⟨lines, hlines, -⟩ := splitLines_cons_of_isLineBreak hc s
      rw [hlines]
      simp [hc]

/-! ### Lines with their breaks -/

/-- Whether `mark` is a line break in front of a text: a carriage return takes the line feed behind
it along. -/
inductive IsBreak : List Char → List Char → Prop
  | pair (s : List Char) : IsBreak ['\r', '\n'] s
  | single {c : Char} {s : List Char} (hc : isLineBreak c = true)
      (h : c = '\r' → s.head? ≠ some '\n') : IsBreak [c] s

def Unbroken (s : List Char) : Prop :=
  ∀ c ∈ s, isLineBreak c = false

theorem splitLines_append_break (hline : Unbroken line) (h : IsBreak mark s) :
    splitLines (line ++ (mark ++ s)) = line :: splitLines s := by
  induction line with
  | nil =>
    cases h with
    | pair s => rfl
    | @single c s hc hnot =>
      change splitLines (c :: s) = _
      rw [splitLines, if_pos hc]
      rintro t rfl rfl
      exact hnot rfl rfl
  | cons c line ih =>
    obtain ⟨hc, hline⟩ := List.forall_mem_cons.1 hline
    rw [List.cons_append, splitLines_cons hc, ih hline]
    rfl

theorem splitLines_of_unbroken (hne : line ≠ []) (hline : Unbroken line) :
    splitLines line = [line] := by
  induction line with
  | nil => exact absurd rfl hne
  | cons c line ih =>
    obtain ⟨hc, hline⟩ := List.forall_mem_cons.1 hline
    rw [splitLines_cons hc]
    by_cases hnil : line = []
    · subst hnil
      rfl
    · rw [ih hnil hline]
      rfl

/-- A line with the break behind it, which the last line of a text may lack. -/
structure EndedLine where
  text : List Char
  ending : List Char

def endedLines : List Char → List EndedLine
  | [] => []
  | '\r' :: '\n' :: s => ⟨[], ['\r', '\n']⟩ :: endedLines s
  | c :: s =>
    if isLineBreak c then ⟨[], [c]⟩ :: endedLines s
    else
      match endedLines s with
      | [] => [⟨[c], []⟩]
      | line :: lines => ⟨c :: line.text, line.ending⟩ :: lines

def wholeText (lines : List EndedLine) : List Char :=
  lines.flatMap fun line => line.text ++ line.ending

theorem wholeText_cons (line : EndedLine) (lines : List EndedLine) :
    wholeText (line :: lines) = line.text ++ (line.ending ++ wholeText lines) := by
  rw [wholeText, List.flatMap_cons, List.append_assoc]
  rfl

/-- Lines of which each holds no break and ends with one, the last one perhaps without. -/
inductive Lined : List EndedLine → Prop
  | nil : Lined []
  | last {line : List Char} (hne : line ≠ []) (hline : Unbroken line) : Lined [⟨line, []⟩]
  | cons {line mark : List Char} {lines : List EndedLine} (hline : Unbroken line)
      (hmark : IsBreak mark (wholeText lines)) (h : Lined lines) : Lined (⟨line, mark⟩ :: lines)

variable {lines : List EndedLine}

/-- Lines whose breaks fit are the lines of the text they make up. -/
theorem Lined.splitLines_wholeText (h : Lined lines) :
    splitLines (wholeText lines) = lines.map EndedLine.text := by
  induction h with
  | nil => rfl
  | @last line hne hline =>
    rw [wholeText_cons]
    change splitLines (line ++ []) = [line]
    rw [List.append_nil, splitLines_of_unbroken hne hline]
  | cons hline hmark _ ih =>
    rw [wholeText_cons, splitLines_append_break hline hmark, ih]
    rfl

theorem wholeText_endedLines (s : List Char) : wholeText (endedLines s) = s := by
  induction s using endedLines.induct with
  | case1 => rfl
  | case2 s ih =>
    rw [endedLines, wholeText_cons, ih]
    rfl
  | case3 c s hpair hc ih =>
    rw [endedLines, if_pos hc, wholeText_cons, ih]
    · rfl
    · exact hpair
  | case4 c s hpair hc hs ih =>
    rw [hs] at ih
    rw [endedLines, if_neg hc, hs, ← ih]
    · rfl
    · exact hpair
  | case5 c s hpair hc line lines hs ih =>
    rw [hs, wholeText_cons] at ih
    rw [endedLines, if_neg hc, hs, wholeText_cons, List.cons_append, ih]
    exact hpair

theorem lined_endedLines (s : List Char) : Lined (endedLines s) := by
  have hunbroken {c : Char} {line : List Char} (hc : ¬ isLineBreak c = true)
      (hline : Unbroken line) : Unbroken (c :: line) :=
    List.forall_mem_cons.2 ⟨by simpa using hc, hline⟩
  induction s using endedLines.induct with
  | case1 => exact .nil
  | case2 s ih =>
    rw [endedLines]
    exact .cons (by simp [Unbroken]) (.pair _) ih
  | case3 c s hpair hc ih =>
    rw [endedLines, if_pos hc]
    · refine .cons (by simp [Unbroken]) (.single hc ?_) ih
      rw [wholeText_endedLines]
      intro hreturn hfeed
      obtain ⟨t, rfl⟩ := List.head?_eq_some_iff.1 hfeed
      exact hpair t hreturn rfl
    · exact hpair
  | case4 c s hpair hc hs ih =>
    rw [endedLines, if_neg hc, hs]
    · exact .last (by simp) (hunbroken hc (by simp [Unbroken]))
    · exact hpair
  | case5 c s hpair hc line lines hs ih =>
    rw [hs] at ih
    rw [endedLines, if_neg hc, hs]
    · cases ih with
      | last _ hline => exact .last (by simp) (hunbroken hc hline)
      | cons hline hmark h => exact .cons (hunbroken hc hline) hmark h
    · exact hpair

theorem map_text_endedLines (s : List Char) : (endedLines s).map EndedLine.text = splitLines s := by
  rw [← (lined_endedLines s).splitLines_wholeText, wholeText_endedLines]

/-! ### Other lines for lines -/

/-- The text with other lines and the same breaks. -/
def mapLines (f : List Char → List Char) (s : List Char) : List Char :=
  wholeText ((endedLines s).map fun line => ⟨f line.text, line.ending⟩)

section

variable {f : List Char → List Char} (hf : ∀ line, Unbroken line → Unbroken (f line))
  (hnil : ∀ line, f line = [] ↔ line = [])
include hf hnil

theorem Lined.head?_wholeText_map (h : Lined lines)
    (hfeed : (wholeText (lines.map fun line => ⟨f line.text, line.ending⟩)).head? = some '\n') :
    (wholeText lines).head? = some '\n' := by
  have hline {line : List Char} (hne : line ≠ []) (hline : Unbroken line) (rest : List Char)
      (hhead : (f line ++ rest).head? = some '\n') : False := by
    obtain ⟨c, more, hmore⟩ := List.exists_cons_of_ne_nil (mt (hnil line).1 hne)
    rw [hmore] at hhead
    obtain rfl : c = '\n' := by simpa using hhead
    exact absurd (hf line hline '\n' (hmore ▸ List.mem_cons_self)) (by decide)
  cases h with
  | nil => exact hfeed
  | last hne hunbroken =>
    rw [List.map_cons, wholeText_cons] at hfeed
    exact (hline hne hunbroken _ hfeed).elim
  | @cons line mark lines hunbroken hmark h =>
    rw [List.map_cons, wholeText_cons] at hfeed
    by_cases hne : line = []
    · subst hne
      rw [wholeText_cons]
      rw [(hnil []).2 rfl] at hfeed
      cases hmark with
      | pair _ => exact hfeed
      | single _ _ => exact hfeed
    · exact (hline hne hunbroken _ hfeed).elim

theorem Lined.map (h : Lined lines) :
    Lined (lines.map fun line => ⟨f line.text, line.ending⟩) := by
  induction h with
  | nil => exact .nil
  | @last line hne hline => exact .last (mt (hnil line).1 hne) (hf line hline)
  | @cons line mark lines hline hmark h ih =>
    refine .cons (hf line hline) ?_ ih
    cases hmark with
    | pair _ => exact .pair _
    | single hc hnot =>
      exact .single hc fun hreturn hfeed => hnot hreturn (h.head?_wholeText_map hf hnil hfeed)

theorem splitLines_mapLines (s : List Char) : splitLines (mapLines f s) = (splitLines s).map f := by
  rw [mapLines, ((lined_endedLines s).map hf hnil).splitLines_wholeText, ← map_text_endedLines,
    List.map_map, List.map_map]
  rfl

end

end Stencil.Text
