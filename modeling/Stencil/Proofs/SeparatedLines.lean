import Stencil.Proofs.IndentedLines

/-!
# Separators inside lines

A style sheet has a line break at every line feed. Where the common indentation is removed, lines
also end at the separators of other scripts and devices, and each of these becomes a line feed. As
long as no line holds one, nothing but indentation is lost. A separator inside a line is replaced,
or what stands behind it is taken for a line without its margin: `stripIndent_feedBreaks`.
-/

namespace Stencil.Text

variable {s : List Char} {c : Char}

def OnlyFeeds (s : List Char) : Prop :=
  ∀ c ∈ s, isLineBreak c = true → c = '\n'

def feedBreaks (s : List Char) : List Char :=
  s.map fun c => if isLineBreak c then '\n' else c

theorem splitLines_cons_of_ne_return (hc : isLineBreak c = true) (hne : c ≠ '\r')
    (s : List Char) : splitLines (c :: s) = [] :: splitLines s := by
  have hmark : IsBreak [c] s := .single hc fun hreturn => absurd hreturn hne
  have hnil : Unbroken [] := by simp [Unbroken]
  exact splitLines_append_break hnil hmark

theorem unbroken_of_mem_splitLines (s : List Char) : ∀ line ∈ splitLines s, Unbroken line := by
  have h := lined_endedLines s
  rw [← map_text_endedLines]
  generalize endedLines s = lines at h
  induction h with
  | nil => simp
  | last _ hline => simpa using hline
  | cons hline _ _ ih => exact List.forall_mem_cons.2 ⟨hline, ih⟩

theorem onlyFeeds_feedBreaks (s : List Char) : OnlyFeeds (feedBreaks s) := by
  intro c hc hbreak
  obtain ⟨d, -, rfl⟩ := List.mem_map.1 hc
  split_ifs at hbreak ⊢
  · rfl
  · contradiction

theorem splitLines_feedBreaks (hs : '\r' ∉ s) : splitLines (feedBreaks s) = splitLines s := by
  induction s with
  | nil => rfl
  | cons c s ih =>
    obtain ⟨hne, hs⟩ := not_or.1 (mt List.mem_cons.2 hs)
    rw [feedBreaks, List.map_cons]
    change splitLines (_ :: feedBreaks s) = _
    cases hc : isLineBreak c with
    | true =>
      rw [if_pos rfl, splitLines_cons_of_ne_return (by decide) (by decide), ih hs,
        splitLines_cons_of_ne_return hc (Ne.symm hne)]
    | false =>
      rw [if_neg Bool.false_ne_true, splitLines_cons hc, splitLines_cons hc, ih hs]

theorem splitNewlines_eq_or (hs : OnlyFeeds s) :
    splitNewlines s = splitLines s ∨ splitNewlines s = splitLines s ++ [[]] := by
  induction s with
  | nil => exact .inr rfl
  | cons c s ih =>
    obtain ⟨hbreak, hmore⟩ := List.forall_mem_cons.1 hs
    cases hc : isLineBreak c with
    | true =>
      obtain rfl := hbreak hc
      rw [splitLines_cons_of_ne_return hc (by decide), splitNewlines, if_pos (by decide),
        List.cons_append, List.cons_inj_right, List.cons_inj_right]
      exact ih hmore
    | false =>
      have hne : (c == '\n') = false := by
        rw [beq_eq_false_iff_ne]
        rintro rfl
        exact absurd hc (by decide)
      rw [splitLines_cons hc, splitNewlines, if_neg (by simp [hne])]
      cases hlines : splitLines s with
      | nil =>
        rcases ih hmore with h | h
        · exact absurd (h.trans hlines) (splitNewlines_ne_nil s)
        · rw [h, hlines]
          exact .inl rfl
      | cons line lines =>
        rcases ih hmore with h | h
        · rw [h, hlines]
          exact .inl rfl
        · rw [h, hlines]
          exact .inr rfl

end Stencil.Text

namespace Stencil.Source

open Stencil.Text

variable {s edge line out : List Char} {lines : List (List Char)}

/-- The stretches between line feeds without the margin, joined again. -/
def outdentedText (s : List Char) : List Char :=
  joinNewlines ((splitNewlines s).map (outdented (margin (splitNewlines s))))

/-- Whether every stretch between line feeds that is not blank begins with the margin. -/
def Uniform (s : List Char) : Prop :=
  ∀ line ∈ splitNewlines s, ¬ Stray (margin (splitNewlines s)) line

instance : Decidable (Uniform s) :=
  inferInstanceAs (Decidable (∀ line ∈ splitNewlines s, ¬ Stray (margin (splitNewlines s)) line))

/-- Whether the margin is removed from a text and nothing else changes, up to a final line feed. -/
def OnlyOutdents (s : List Char) : Prop :=
  ∃ out, stripIndent s = .ok out ∧ (out = outdentedText s ∨ out ++ ['\n'] = outdentedText s)

theorem margin_concat_nil (lines : List (List Char)) : margin (lines ++ [[]]) = margin lines := by
  unfold margin
  rw [List.find?_append]
  cases lines.find? fun line => !allBlank line <;> rfl

/-- Where all line breaks are line feeds, nothing but indentation is lost. -/
theorem onlyOutdents_of_onlyFeeds (hs : OnlyFeeds s) (huniform : Uniform s) : OnlyOutdents s := by
  unfold OnlyOutdents outdentedText
  unfold Uniform at huniform
  rcases splitNewlines_eq_or hs with h | h
  · rw [h] at huniform ⊢
    exact ⟨_, stripIndent_eq_ok_iff.2 ⟨huniform, rfl⟩, .inl rfl⟩
  · rw [h, margin_concat_nil] at huniform ⊢
    rw [List.forall_mem_append] at huniform
    refine ⟨_, stripIndent_eq_ok_iff.2 ⟨huniform.1, rfl⟩, ?_⟩
    rw [List.map_append]
    change _ ∨ _ = joinNewlines (_ ++ [[]])
    by_cases hnil : (splitLines s).map (outdented (margin (splitLines s))) = []
    · rw [hnil]
      exact .inl rfl
    · exact .inr (joinNewlines_concat_nil hnil).symm

theorem isIndent_of_mem_margin {c : Char} (hc : c ∈ margin lines) : isIndent c = true := by
  unfold margin at hc
  split at hc
  · exact holds_of_mem_takeWhile hc
  · simp at hc

theorem ne_newline_of_mem {c : Char} (hline : line ∈ splitNewlines s) (hc : c ∈ line) :
    c ≠ '\n' := by
  rintro rfl
  exact newline_not_mem_of_mem_splitNewlines s line hline hc

theorem mem_outdentedText {c : Char} (huniform : Uniform s) (hline : line ∈ splitNewlines s)
    (hblank : allBlank line = false) (hc : c ∈ line) (hbreak : isLineBreak c = true) :
    c ∈ outdentedText s := by
  have hfeed := ne_newline_of_mem hline hc
  have hprefix : margin (splitNewlines s) <+: line := by
    by_contra hnot
    exact huniform line hline ⟨hblank, hnot⟩
  obtain ⟨rest, rfl⟩ := hprefix
  refine (mem_joinNewlines_iff hfeed).2 ⟨_, List.mem_map_of_mem hline, ?_⟩
  unfold outdented
  rw [if_neg (by simp [hblank]), List.drop_left]
  rcases List.mem_append.1 hc with hmargin | hc
  · have hindent := isIndent_of_mem_margin hmargin
    exact absurd hbreak (by simp [isLineBreak_of_isIndent hindent])
  · exact hc

theorem onlyFeeds_of_stripIndent (h : stripIndent s = .ok out) : OnlyFeeds out := by
  obtain ⟨-, rfl⟩ := stripIndent_eq_ok_iff.1 h
  intro c hc hbreak
  by_contra hne
  obtain ⟨_, hmem, hc⟩ := (mem_joinNewlines_iff hne).1 hc
  obtain ⟨line, hline, rfl⟩ := List.mem_map.1 hmem
  have hunbroken := unbroken_of_mem_splitLines s line hline
  unfold outdented at hc
  split_ifs at hc
  · simp at hc
  · exact absurd hbreak (by simp [hunbroken c (List.mem_of_mem_drop hc)])

/-- In a text without carriage returns every line break acts as a line feed. Nothing but indentation
is lost if they are line feeds; if another one stands inside a line that is not blank, more than
that is lost, or the text is refused. -/
theorem stripIndent_feedBreaks (hs : '\r' ∉ s) :
    (OnlyFeeds s → Uniform s → OnlyOutdents s) ∧
    (OnlyFeeds (feedBreaks s) ∧ stripIndent s = stripIndent (feedBreaks s)) ∧
    (Uniform s → ∀ line ∈ splitNewlines s, allBlank line = false →
      (∃ c ∈ line, isLineBreak c = true) → ¬ OnlyOutdents s) := by
  refine ⟨onlyOutdents_of_onlyFeeds, ⟨onlyFeeds_feedBreaks s, ?_⟩, ?_⟩
  · rw [stripIndent_eq, stripIndent_eq, splitLines_feedBreaks hs]
  · rintro huniform line hline hblank ⟨c, hc, hbreak⟩ ⟨out, hout, htext⟩
    have hmem := mem_outdentedText huniform hline hblank hc hbreak
    have hfeed := ne_newline_of_mem hline hc
    have hnot : c ∉ out := fun hmem => hfeed (onlyFeeds_of_stripIndent hout c hmem hbreak)
    rcases htext with rfl | htext
    · exact hnot hmem
    · rw [← htext] at hmem
      simp [hnot, hfeed] at hmem

def quotedSeparator : List Char :=
  "  a: \"x\u2028  y\"\n\n    b".toList

theorem stripIndent_feedBreaks_quotedSeparator :
    stripIndent quotedSeparator = .ok "a: \"x\ny\"\n\n  b".toList ∧ Uniform quotedSeparator ∧
      ¬ OnlyOutdents quotedSeparator ∧ OnlyOutdents (feedBreaks quotedSeparator) := by
  have hs : '\r' ∉ quotedSeparator := by decide +kernel
  have hs' : '\r' ∉ feedBreaks quotedSeparator := by decide +kernel
  have huniform : Uniform quotedSeparator := by decide +kernel
  obtain ⟨-, ⟨hfeeds, hsame⟩, hinside⟩ := stripIndent_feedBreaks hs
  refine ⟨?_, huniform, ?_, (stripIndent_feedBreaks hs').1 hfeeds (by decide +kernel)⟩
  · rw [hsame]
    decide +kernel
  · exact hinside huniform "  a: \"x\u2028  y\"".toList (by decide +kernel) (by decide +kernel)
      ⟨'\u2028', by decide +kernel, by decide +kernel⟩

/-- A separator in quotes becomes a line feed. Where what stands behind a separator does not begin
with the margin, the text is refused at a line that a style sheet does not have. -/
theorem stripIndent_separators :
    ('\r' ∉ "a: \"x\u2028y\"".toList ∧ '\x0c' ∉ "a: \"x\u2028y\"".toList ∧
      Uniform "a: \"x\u2028y\"".toList ∧
      outdentedText "a: \"x\u2028y\"".toList = "a: \"x\u2028y\"".toList ∧
      stripIndent "a: \"x\u2028y\"".toList = .ok "a: \"x\ny\"".toList ∧
      ¬ OnlyOutdents "a: \"x\u2028y\"".toList) ∧
    Uniform "  a\u2028b".toList ∧ outdentedText "  a\u2028b".toList = "a\u2028b".toList ∧
      stripIndent "  a\u2028b".toList = .error ⟨2, 2⟩ := by
  have htext : outdentedText "a: \"x\u2028y\"".toList = "a: \"x\u2028y\"".toList := by
    decide +kernel
  have hstrip : stripIndent "a: \"x\u2028y\"".toList = .ok "a: \"x\ny\"".toList := by decide +kernel
  refine ⟨⟨by decide +kernel, by decide +kernel, by decide +kernel, htext, hstrip, ?_⟩,
    by decide +kernel, by decide +kernel, by decide +kernel⟩
  rintro ⟨out, hout, h⟩
  obtain rfl := Except.ok.inj (hstrip.symm.trans hout)
  rw [htext] at h
  exact absurd h (by decide +kernel)

end Stencil.Source
