import Stencil.Proofs.CutSplit
import Stencil.Proofs.TokenCut
import Stencil.Text.Blank

/-!
# Tokens between the standard markers

A standard token holds no blank, so a text may lose its outer blanks and keep its tokens. Whether a
token begins inside of a gap depends on no more of the token behind the gap than the two percent
signs that begin it. So every index may be written in other digits, and the text is cut where it was
cut before: `standard_cut_respelled`.
-/

namespace Stencil.Token

open Stencil.Text

namespace Markers

variable {c : Char} {digits gap s : List Char} {tail : List (List Char × List Char)}

/-! ### Characters outside of tokens -/

theorem standard_avoids {p : Char → Bool} (hmark : standard.opening.any p = false)
    (hc : p c = true) (hdec : isDecimal c = false) : standard.lexeme.Avoids c := by
  have hopening : c ∉ standard.opening := fun hmem => List.any_eq_false.1 hmark c hmem hc
  intro digits hdigits hmem
  rw [lexeme_written, token, List.mem_append, List.mem_append] at hmem
  rcases hmem with (hmem | hmem) | hmem
  · exact hopening hmem
  · simp [(standard.reads_iff.1 hdigits).2 c hmem] at hdec
  · obtain rfl : c = '%' := by simpa [standard_closing] using hmem
    exact hopening (by simp [standard_opening])

theorem not_isDecimal_of_isBlank (h : isBlank c = true) : isDecimal c = false := by
  have htable : ∀ z ∈ zeros, ∀ i < 10, isBlank (Char.ofNat (z + i)) = false := by decide +kernel
  cases hd : isDecimal c with
  | false => rfl
  | true =>
    obtain ⟨v, hv⟩ := Option.isSome_iff_exists.1 hd
    obtain ⟨z, hz, rfl⟩ := Option.map_eq_some_iff.1 hv
    have hrange := List.find?_some hz
    simp only [Bool.and_eq_true, decide_eq_true_eq] at hrange
    have := htable z (List.mem_of_find?_eq_some hz) (c.toNat - z) (by omega)
    rw [Nat.add_sub_cancel' hrange.1, Char.ofNat_toNat, h] at this
    exact absurd this (by simp)

theorem standard_avoids_of_isBlank (h : isBlank c = true) : standard.lexeme.Avoids c :=
  standard_avoids (by decide +kernel) h (not_isDecimal_of_isBlank h)

theorem lexemes_blanks_append {b : List Char} (hb : ∀ c ∈ b, isBlank c = true) (s : List Char) :
    standard.lexeme.lexemes (b ++ s) = standard.lexeme.lexemes s := by
  induction b with
  | nil => rfl
  | cons c b ih =>
    obtain ⟨hc, hb⟩ := List.forall_mem_cons.1 hb
    have hsplit := standard.rigid_lexeme.lexemes_append_cons (standard_avoids_of_isBlank hc) []
      (b ++ s)
    rw [List.cons_append, ← List.nil_append (c :: (b ++ s)), hsplit, ih hb, Lexeme.lexemes_nil,
      List.nil_append]

theorem lexemes_append_blanks {b : List Char} (hb : ∀ c ∈ b, isBlank c = true) (s : List Char) :
    standard.lexeme.lexemes (s ++ b) = standard.lexeme.lexemes s := by
  cases b with
  | nil => rw [List.append_nil]
  | cons c b =>
    obtain ⟨hc, hb⟩ := List.forall_mem_cons.1 hb
    have hnone := lexemes_blanks_append hb []
    rw [List.append_nil, Lexeme.lexemes_nil] at hnone
    rw [standard.rigid_lexeme.lexemes_append_cons (standard_avoids_of_isBlank hc), hnone,
      List.append_nil]

theorem standard_lexemes_of_not_mem (h : '%' ∉ s) : standard.lexeme.lexemes s = [] := by
  induction s with
  | nil => exact Lexeme.lexemes_nil
  | cons c s ih =>
    obtain ⟨hc, hs⟩ := not_or.1 (mt List.mem_cons.2 h)
    have hread : standard.lexeme.read? (c :: s) = none := by
      apply read?_cons_of_ne
      rw [standard_opening]
      simpa using hc
    rw [Lexeme.lexemes, Lexeme.cut_cons _ hread, Cut.lexemes_consChar]
    exact ih hs

theorem standard_tokens_strip (s : List Char) : standard.tokens (strip s) = standard.tokens s := by
  have hblank {t : List Char} : ∀ c ∈ t.takeWhile isBlank, isBlank c = true :=
    fun _ hc => holds_of_mem_takeWhile hc
  have hleft : standard.lexeme.lexemes (stripLeft s) = standard.lexeme.lexemes s := by
    conv => rhs; rw [← List.takeWhile_append_dropWhile (p := isBlank) (l := s)]
    rw [lexemes_blanks_append hblank, stripLeft]
  have hright (t : List Char) :
      standard.lexeme.lexemes (stripRight t) = standard.lexeme.lexemes t := by
    have hsplit : stripRight t ++ (t.reverse.takeWhile isBlank).reverse = t := by
      rw [stripRight, ← List.reverse_append, List.takeWhile_append_dropWhile, List.reverse_reverse]
    conv => rhs; rw [← hsplit]
    exact (lexemes_append_blanks (fun c hc => hblank c (List.mem_reverse.1 hc)) _).symm
  exact congrArg (List.map standard.token) ((hright _).trans hleft)

/-! ### Other digits -/

/-- Two percent signs that open a token do not stand inside of another one. -/
theorem standard_opens_outside (h : standard.lexeme.Reads digits) {u y : List Char} (hu : u ≠ []) :
    standard.token digits ≠ u ++ '%' :: '%' :: 's' :: y := by
  obtain ⟨inside, hsign, -, htoken⟩ := standard_token_eq h
  rw [htoken]
  intro he
  match u, hu with
  | [_], _ => simp at he
  | [_, _], _ => simp at he
  | _ :: _ :: _ :: u, _ =>
    simp only [List.cons_append, List.cons.injEq] at he
    rcases List.append_eq_append_iff.1 he.2.2.2 with ⟨w, -, hw⟩ | ⟨w, rfl, hw⟩
    · have := congrArg List.length hw
      simp only [List.length_append, List.length_cons, List.length_nil] at this
      omega
    · cases w with
      | nil => simp at hw
      | cons d w =>
        obtain ⟨rfl, -⟩ := List.cons.inj hw
        simp at hsign

/-- Of the token behind a gap no more counts than the percent signs that begin it. -/
theorem standard_silent_iff (h : standard.lexeme.Reads digits) :
    standard.lexeme.Silent gap (standard.token digits) ↔
      standard.lexeme.Silent gap ['%', '%'] := by
  obtain ⟨inside, -, -, htoken⟩ := standard_token_eq h
  constructor
  · intro hs u hne hu
    refine standard.rigid_lexeme.read?_eq_none_of_append (r := 's' :: (inside ++ ['%', '%'])) ?_
    have hnone := hs u hne hu
    rw [htoken] at hnone
    simpa using hnone
  · intro hs u hne hu
    cases hr : standard.lexeme.read? (u ++ standard.token digits) with
    | none => rfl
    | some p =>
      exfalso
      obtain ⟨e, z⟩ := p
      have hreads := standard.rigid_lexeme.reads hr
      -- The token that is read ends with the percent signs at the latest.
      have hfront : ∃ y, u ++ ['%', '%'] = standard.token e ++ y := by
        rcases List.append_eq_append_iff.1 (standard.lexeme.read?_eq hr) with
          ⟨y, hy, hz⟩ | ⟨y, rfl, -⟩
        · rw [lexeme_written] at hy
          rw [htoken] at hz
          match y with
          | [] => exact ⟨['%', '%'], by simp [hy]⟩
          | [_] =>
            obtain ⟨rfl, -⟩ := List.cons.inj hz
            exact ⟨['%'], by simp [hy]⟩
          | [_, _] =>
            simp only [List.cons_append, List.cons.injEq] at hz
            obtain ⟨rfl, rfl, -⟩ := hz
            exact ⟨[], by simp [hy]⟩
          | _ :: _ :: _ :: y =>
            simp only [List.cons_append, List.cons.injEq] at hz
            obtain ⟨rfl, rfl, rfl, -⟩ := hz
            exact absurd hy (standard_opens_outside hreads hne)
        · exact ⟨y ++ ['%', '%'], by simp⟩
      obtain ⟨y, hy⟩ := hfront
      have hnone := hs u hne hu
      rw [hy] at hnone
      exact absurd ((hreads y).symm.trans hnone) (by simp)

variable {f : List Char → List Char}
  (hf : ∀ d, standard.lexeme.Reads d → standard.lexeme.Reads (f d))
include hf

theorem standard_apart_respelled (h : standard.lexeme.Apart gap tail) :
    standard.lexeme.Apart gap (tail.map fun q => (f q.1, q.2)) := by
  induction tail generalizing gap with
  | nil => exact h
  | cons q more ih =>
    obtain ⟨digits, next⟩ := q
    obtain ⟨hgap, hreads, hnext⟩ := h
    exact ⟨(standard_silent_iff (hf _ hreads)).2 ((standard_silent_iff hreads).1 hgap),
      hf _ hreads, ih hnext⟩

theorem standard_cut_respelled (s : List Char) :
    standard.cut ((standard.cut s).weave fun digits => standard.token (f digits)) =
      ⟨(standard.cut s).head, (standard.cut s).tail.map fun q => (f q.1, q.2)⟩ := by
  refine standard.rigid_lexeme.cut_eq_iff.2 ⟨?_, ?_⟩
  · rw [Cut.weave_eq, Cut.weave_eq, woven_map, lexeme_written]
  · exact standard_apart_respelled hf (standard.rigid_lexeme.apart_cut s)

end Markers

end Stencil.Token
