import Stencil.Proofs.SeparateStatements
import Stencil.Proofs.ShieldRoundTrip

/-!
# Comments in front of a token

Blanks and comments may stand between the beginning of a statement and a token. They do not move
the token and do not touch any other one. Blanks leave its form as it was; a comment counts as text
of the statement, so behind one a token does not stand for a whole statement: `shield_filler`.
-/

namespace Stencil.Shield

open Stencil.Text Stencil.Number Stencil.Token Stencil.Adjacency

/-- Blanks and complete comments that hold no token, no semicolon and no brace. -/
inductive Filler : List Char → Prop
  | nil : Filler []
  | blank {c : Char} {rest : List Char} (hc : isBlank c = true) (hrest : Filler rest) :
      Filler (c :: rest)
  | comment {body rest : List Char} (hclosed : ¬ ['*', '/'] <:+: body)
      (hbody : ∀ c ∈ body, isBoundary c = false) (htokens : Markers.standard.tokens body = [])
      (hrest : Filler rest) : Filler ('/' :: '*' :: (body ++ '*' :: '/' :: rest))

variable {filler digits s before after : List Char} {more : List (List Char × List Char)}

/-! ### What a filler is to the tokens -/

theorem standard_cut_cons {c : Char} (hc : Markers.standard.lexeme.Avoids c) (s : List Char) :
    Markers.standard.cut (c :: s) = (Markers.standard.cut s).consChar c := by
  have h := Markers.standard.rigid_lexeme.cut_append_cons hc [] s
  rw [Lexeme.cut_nil] at h
  exact h

theorem standard_avoids_commentMark {c : Char} (hc : c = '/' ∨ c = '*') :
    Markers.standard.lexeme.Avoids c := by
  refine Markers.standard_avoids (p := fun c => c == '/' || c == '*') (by decide +kernel) ?_ ?_
  · simpa using hc
  · rcases hc with rfl | rfl <;> decide

theorem Filler.cut_append (hfiller : Filler filler) (s : List Char) :
    Markers.standard.cut (filler ++ s) =
      ⟨filler ++ (Markers.standard.cut s).head, (Markers.standard.cut s).tail⟩ := by
  have hmark {c : Char} (hc : c = '/' ∨ c = '*') (t : List Char) :
      Markers.standard.cut (c :: t) = (Markers.standard.cut t).consChar c :=
    standard_cut_cons (standard_avoids_commentMark hc) t
  induction hfiller with
  | nil => rfl
  | blank hc _ ih =>
    rw [List.cons_append, standard_cut_cons (Markers.standard_avoids_of_isBlank hc), ih]
    rfl
  | @comment body rest _ _ htokens _ ih =>
    have hstar := standard_avoids_commentMark (c := '*') (.inr rfl)
    have hbody : Markers.standard.cut (body ++ '*' :: ('/' :: (rest ++ s))) =
        (Markers.standard.cut body).append
          ((Markers.standard.cut ('/' :: (rest ++ s))).consChar '*') :=
      Markers.standard.rigid_lexeme.cut_append_cons hstar body _
    rw [Markers.cut_of_tokens_eq_nil htokens, hmark (.inl rfl), ih] at hbody
    simp only [List.cons_append, List.append_assoc]
    rw [hmark (.inl rfl), hmark (.inr rfl), hbody]
    rfl

theorem Filler.not_isBoundary (hfiller : Filler filler) : ∀ c ∈ filler, isBoundary c = false := by
  induction hfiller with
  | nil => simp
  | blank hc _ ih => exact List.forall_mem_cons.2 ⟨not_isBoundary_of_isBlank hc, ih⟩
  | comment _ hbody _ _ ih =>
    have hmarks : isBoundary '/' = false ∧ isBoundary '*' = false := by decide
    simp only [List.forall_mem_cons, List.forall_mem_append]
    exact ⟨hmarks.1, hmarks.2, hbody, hmarks.2, hmarks.1, ih⟩

/-! ### Places behind a filler -/

section Places

variable {m : Markers} (hfiller : ∀ c ∈ filler, isBoundary c = false)
include hfiller

theorem standsAlone_append_filler : standsAlone .block ⟨before ++ filler, after⟩ =
    (standsAlone .block ⟨before, after⟩ && allBlank filler) := by
  have hopening : Place.opening ⟨before ++ filler, after⟩ =
      Place.opening ⟨before, after⟩ ++ filler := behindLast_append_of_forall hfiller before
  simp only [standsAlone, aloneInBlock, hopening, allBlank, List.all_append]
  cases filler.all isBlank <;> simp

/-- A token behind a filler stands for a whole statement if it did before and the filler is
blank. -/
theorem kindAt_append_filler : kindAt m .block ⟨before ++ filler, after⟩ =
    if kindAt m .block ⟨before, after⟩ = .statement ∧ allBlank filler = false then .plain
    else kindAt m .block ⟨before, after⟩ := by
  unfold kindAt
  rw [standsAlone_append_filler hfiller]
  cases percentFollows m after <;> cases standsAlone .block ⟨before, after⟩ <;>
    cases allBlank filler <;> simp

/-- A filler further ahead counts for nothing: the text behind it decides already. -/
theorem kindAt_filler_append (hs : allBlank s = false) :
    kindAt m .block ⟨before ++ (filler ++ s), after⟩ = kindAt m .block ⟨before ++ s, after⟩ := by
  have halone : standsAlone .block ⟨before ++ (filler ++ s), after⟩ =
      standsAlone .block ⟨before ++ s, after⟩ := by
    -- A boundary in `s` hides the filler. Without one the statement already holds more than blanks.
    by_cases hboundary : ∃ c ∈ s, isBoundary c = true
    · have hopening := Place.opening_append hboundary
      simp only [standsAlone, aloneInBlock, ← List.append_assoc, hopening]
    · have hfree : ∀ c ∈ s, isBoundary c = false := by simpa using hboundary
      have hboth : ∀ c ∈ filler ++ s, isBoundary c = false :=
        List.forall_mem_append.2 ⟨hfiller, hfree⟩
      have hnot : allBlank (filler ++ s) = false := by
        rw [allBlank, List.all_append, ← allBlank, ← allBlank, hs, Bool.and_false]
      rw [standsAlone_append_filler hboth, standsAlone_append_filler hfree, hs, hnot]
  unfold kindAt
  rw [halone]

theorem shielded_filler_append (hs : allBlank s = false) :
    shielded m .block (before ++ (filler ++ s)) more = shielded m .block (before ++ s) more := by
  induction more generalizing s with
  | nil => rfl
  | cons q more ih =>
    obtain ⟨digits, gap⟩ := q
    have hnext : allBlank (s ++ (m.token digits ++ gap)) = false := by
      rw [allBlank, List.all_append, ← allBlank, hs, Bool.false_and]
    have hmore := ih hnext
    rw [shielded_cons, shielded_cons, kindAt_filler_append hfiller hs]
    simp only [List.append_assoc, hmore]

end Places

/-! ### Shielding -/

theorem allBlank_token (hdigits : Markers.standard.lexeme.Reads digits) (s : List Char) :
    allBlank (Markers.standard.token digits ++ s) = false := by
  obtain ⟨inside, -, -, htoken⟩ := Markers.standard_token_eq hdigits
  rw [htoken]
  rfl

/-- The text behind a filler and a token is shielded in the same way whatever the filler is. -/
theorem exists_shieldedText_filler (hdigits : Markers.standard.lexeme.Reads digits)
    (b : List Char) : ∃ back, ∀ filler, Filler filler →
      shieldedText .standard .block (filler ++ (Markers.standard.token digits ++ b)) =
        filler ++ (Form.written ⟨kindAt .standard .block ⟨filler, b⟩, numeral (value digits)⟩ ++
          back) := by
  let c := Markers.standard.cut b
  refine ⟨c.head.drop (kindAt .standard .block ⟨[], b⟩).covered.length ++
    woven Form.written (shielded .standard .block (Markers.standard.token digits ++ c.head) c.tail),
    fun filler hfiller => ?_⟩
  have hfree := hfiller.not_isBoundary
  have hcut : Markers.standard.cut (filler ++ (Markers.standard.token digits ++ b)) =
      ⟨filler, (digits, c.head) :: c.tail⟩ := by
    have htoken : Markers.standard.cut (Markers.standard.token digits ++ b) =
        c.consLexeme digits := Markers.standard.lexeme.cut_of_read? (hdigits b)
    rw [hfiller.cut_append, htoken]
    simp [Cut.consLexeme]
  have hafter : c.head ++ woven Markers.standard.token c.tail = b :=
    Markers.standard.lexeme.weave_cut b
  -- A whole statement and an identifier cover nothing behind the token, so `back` is the same.
  have hcovered : (kindAt .standard .block ⟨filler, b⟩).covered =
      (kindAt .standard .block ⟨[], b⟩).covered := by
    have hkind : kindAt .standard .block ⟨[] ++ filler, b⟩ = _ := kindAt_append_filler hfree
    rw [List.nil_append] at hkind
    rw [hkind]
    split_ifs with hstatement
    · rw [hstatement.1]
      rfl
    · rfl
  have hmore : shielded .standard .block
        ([] ++ (filler ++ (Markers.standard.token digits ++ c.head))) c.tail =
      shielded .standard .block ([] ++ (Markers.standard.token digits ++ c.head)) c.tail :=
    shielded_filler_append hfree (allBlank_token hdigits c.head)
  rw [shieldedText, hcut, shielded_cons, woven_cons, hafter, hcovered]
  simp only [List.append_assoc, List.nil_append] at hmore ⊢
  rw [hmore]

/-! ### Behind the beginning of a statement -/

/-- Whether a statement begins behind a text: it is empty or ends with a semicolon or a brace. -/
def EndsStatement (a : List Char) : Prop :=
  a = [] ∨ ∃ front c, a = front ++ [c] ∧ isBoundary c = true

theorem Filler.short_append_iff (hfiller : Filler filler) (s : List Char) :
    Short (filler ++ s) ↔ Short s := by
  rw [Short, Short, hfiller.cut_append]

section Statement

variable {a : List Char} (ha : EndsStatement a)
include ha

theorem EndsStatement.short_append_iff (t : List Char) : Short (a ++ t) ↔ Short a ∧ Short t := by
  rcases ha with rfl | ⟨front, c, rfl, hc⟩
  · simp [Short, Markers.cut]
  · have hsplit (t : List Char) : Short (front ++ c :: t) ↔ Short front ∧ Short t :=
      Markers.standard.rigid_lexeme.forall_tail_append_cons_iff
        (standard_avoids_of_isBoundary hc) (fun digits => digits.length ≤ longest) front t
    have hnil : Short [] := by simp [Short, Markers.cut]
    rw [List.append_assoc, List.singleton_append, hsplit, hsplit, and_iff_left hnil]

theorem EndsStatement.shieldedText_append (t : List Char) :
    shieldedText .standard .block (a ++ t) =
      shieldedText .standard .block a ++ shieldedText .standard .block t := by
  rcases ha with rfl | ⟨front, c, rfl, hc⟩
  · simp [shieldedText, Markers.cut]
  · rw [List.append_assoc]
    exact shieldedText_append_cons hc (standard_avoids_of_isBoundary hc)
      (not_mem_standard_opening hc) front t

theorem EndsStatement.kindAt_append (s after : List Char) :
    kindAt .standard .block ⟨a ++ s, after⟩ = kindAt .standard .block ⟨s, after⟩ := by
  rcases ha with rfl | ⟨front, c, rfl, hc⟩
  · rfl
  · rw [List.append_assoc]
    exact (stopsAt_kindAt hc (not_mem_standard_opening hc)).before front s after

end Statement

/-- A token at the beginning of a statement, behind a filler and in front of any text, is shielded
if it is shielded without the filler, and nothing but its form depends on the filler. The form is
that of a whole statement exactly if it is so without the filler and the filler is blank. -/
theorem shield_filler {a digits : List Char} (ha : EndsStatement a) (hne : digits ≠ [])
    (hdec : ∀ c ∈ digits, isDecimal c = true) (b : List Char) :
    ∃ front back, ∀ filler, Filler filler →
      ((∃ out, shield .standard .block
          (a ++ filler ++ Markers.standard.token digits ++ b) = .ok out) ↔
        ∃ out, shield .standard .block (a ++ Markers.standard.token digits ++ b) = .ok out) ∧
      (∀ out,
        shield .standard .block (a ++ filler ++ Markers.standard.token digits ++ b) = .ok out →
          out = front ++ filler ++
            Form.written ⟨kindAt .standard .block ⟨a ++ filler, b⟩, numeral (value digits)⟩ ++
              back) ∧
      (kindAt .standard .block ⟨a ++ filler, b⟩ = .statement ↔
        kindAt .standard .block ⟨a, b⟩ = .statement ∧ allBlank filler = true) := by
  obtain ⟨back, hback⟩ := exists_shieldedText_filler (Markers.standard.reads_iff.2 ⟨hne, hdec⟩) b
  refine ⟨shieldedText .standard .block a, back, fun filler hfiller => ⟨?_, fun out hout => ?_, ?_⟩⟩
  · have hshield (s : List Char) : (∃ out, shield .standard .block s = .ok out) ↔ Short s := by
      simp only [shield_eq_ok_iff_shieldedText, exists_and_left, exists_eq, and_true, Short]
    simp only [hshield, List.append_assoc, ha.short_append_iff, hfiller.short_append_iff]
  · obtain ⟨-, rfl⟩ := shield_eq_ok_iff_shieldedText.1 hout
    simp only [List.append_assoc]
    rw [ha.shieldedText_append, hback filler hfiller, ha.kindAt_append]
  · rw [kindAt_append_filler hfiller.not_isBoundary]
    cases allBlank filler with
    | true => simp
    | false => split_ifs with hstatement <;> simp_all

def noteFiller : List Char :=
  '/' :: '*' :: (" note ".toList ++ '*' :: '/' :: [' '])

theorem filler_noteFiller : Filler noteFiller := by
  have hfree : " note ".toList.any isBoundary = false := by decide +kernel
  refine .comment (by decide +kernel) (fun c hc => ?_) (by decide +kernel) (.blank (by decide) .nil)
  exact Bool.eq_false_iff.2 (List.any_eq_false.1 hfree c hc)

theorem shield_filler_braceSheet :
    EndsStatement "a\x7b".toList ∧ Filler "\n  ".toList ∧
      shield .standard .block ("a\x7b".toList ++ "\n  ".toList ++
        Markers.standard.token "07".toList ++ ";\x7d".toList) =
          .ok "a\x7b\n  /*!__sjx_stmt_7__*/;\x7d".toList ∧
      kindAt .standard .block ⟨"a\x7b".toList ++ "\n  ".toList, ";\x7d".toList⟩ = .statement ∧
      kindAt .standard .block ⟨"a\x7b".toList ++ noteFiller, ";\x7d".toList⟩ ≠ .statement := by
  have ha : EndsStatement "a\x7b".toList := .inr ⟨['a'], '{', rfl, by decide⟩
  have hblank : Filler "\n  ".toList :=
    .blank (by decide) (.blank (by decide) (.blank (by decide) .nil))
  have hstatement : kindAt .standard .block ⟨"a\x7b".toList, ";\x7d".toList⟩ = .statement := by
    decide +kernel
  have hne : "07".toList ≠ [] := by decide
  have hdec : "07".toList.all isDecimal = true := by decide +kernel
  obtain ⟨front, back, hall⟩ := shield_filler ha hne (List.all_eq_true.1 hdec) ";\x7d".toList
  obtain ⟨-, -, hkind⟩ := hall _ hblank
  obtain ⟨-, -, hnote⟩ := hall _ filler_noteFiller
  refine ⟨ha, hblank, by decide +kernel, hkind.2 ⟨hstatement, by decide +kernel⟩, fun h => ?_⟩
  exact absurd (hnote.1 h).2 (by decide +kernel)

/-- The same token is a whole statement without the comment, and an identifier behind it. -/
theorem shield_filler_note :
    EndsStatement [] ∧ Filler noteFiller ∧
      shield .standard .block (Markers.standard.token ['0']) =
        .ok (Form.written ⟨.statement, ['0']⟩) ∧
      shield .standard .block (noteFiller ++ Markers.standard.token ['0']) =
        .ok (noteFiller ++ Form.written ⟨.plain, ['0']⟩) :=
  ⟨.inl rfl, filler_noteFiller, by decide +kernel, by decide +kernel⟩

end Stencil.Shield
