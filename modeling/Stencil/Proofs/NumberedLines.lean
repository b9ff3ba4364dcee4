import Mathlib.Data.List.Forall2
import Stencil.Proofs.Success
import Stencil.Text.Lines

/-!
# Lines by number

Use rules and margins are dealt with line by line. Each line becomes another one or is refused, and
the first refusal ends the run with the number of the line, counted from one. This is said once for
all such runs (`LineByLine`), together with what cutting at line feeds and joining by line feeds do
to each other.
-/

namespace Stencil.Text

variable {s line : List Char} {lines out : List (List Char)} {n : Nat}

/-! ### Cutting at line feeds -/

theorem joinNewlines_singleton (line : List Char) : joinNewlines [line] = line := by
  simp [joinNewlines, List.intercalate]

theorem joinNewlines_concat_nil (hne : lines ≠ []) :
    joinNewlines (lines ++ [[]]) = joinNewlines lines ++ ['\n'] := by
  induction lines with
  | nil => exact absurd rfl hne
  | cons line lines ih =>
    by_cases hnil : lines = []
    · subst hnil
      rw [joinNewlines_singleton]
      rfl
    · rw [List.cons_append, joinNewlines_cons (by simp), joinNewlines_cons hnil, ih hnil]
      simp

theorem mem_joinNewlines_iff {c : Char} (hc : c ≠ '\n') :
    c ∈ joinNewlines lines ↔ ∃ line ∈ lines, c ∈ line := by
  induction lines with
  | nil => simp [joinNewlines, List.intercalate]
  | cons line lines ih =>
    by_cases hnil : lines = []
    · subst hnil
      simp [joinNewlines_singleton]
    · rw [joinNewlines_cons hnil, List.mem_append, List.mem_cons, ih]
      simp [hc]

theorem splitNewlines_of_not_mem (h : '\n' ∉ s) : splitNewlines s = [s] := by
  induction s with
  | nil => rfl
  | cons c s ih =>
    obtain ⟨hc, hs⟩ := not_or.1 (mt List.mem_cons.2 h)
    have hne : (c == '\n') = false := by simpa using Ne.symm hc
    rw [splitNewlines, hne, ih hs]
    rfl

theorem splitNewlines_append_cons (h : '\n' ∉ s) (t : List Char) :
    splitNewlines (s ++ '\n' :: t) = s :: splitNewlines t := by
  induction s with
  | nil => rfl
  | cons c s ih =>
    obtain ⟨hc, hs⟩ := not_or.1 (mt List.mem_cons.2 h)
    have hne : (c == '\n') = false := by simpa using Ne.symm hc
    rw [List.cons_append, splitNewlines, hne, ih hs]
    rfl

theorem splitNewlines_joinNewlines (hne : lines ≠ []) (h : ∀ line ∈ lines, '\n' ∉ line) :
    splitNewlines (joinNewlines lines) = lines := by
  induction lines with
  | nil => exact absurd rfl hne
  | cons line lines ih =>
    obtain ⟨hline, hlines⟩ := List.forall_mem_cons.1 h
    by_cases hnil : lines = []
    · subst hnil
      rw [joinNewlines_singleton, splitNewlines_of_not_mem hline]
    · rw [joinNewlines_cons hnil, splitNewlines_append_cons hline, ih hnil hlines]

theorem newline_not_mem_of_mem_splitNewlines (s : List Char) :
    ∀ line ∈ splitNewlines s, '\n' ∉ line := by
  induction s with
  | nil => simp [splitNewlines]
  | cons c s ih =>
    rw [splitNewlines]
    split
    · exact List.forall_mem_cons.2 ⟨by simp, ih⟩
    · next hc =>
      have hne : '\n' ≠ c := by
        rintro rfl
        exact hc rfl
      split
      · simpa using hne
      · next line lines hlines =>
        rw [hlines] at ih
        obtain ⟨hline, hrest⟩ := List.forall_mem_cons.1 ih
        refine List.forall_mem_cons.2 ⟨?_, hrest⟩
        simp [hne, hline]

theorem length_splitNewlines (s : List Char) :
    (splitNewlines s).length = countNewlines s + 1 := by
  induction s with
  | nil => rfl
  | cons c s ih =>
    cases hc : c == '\n' with
    | true => simp [splitNewlines, countNewlines, hc, ih]
    | false =>
      cases hs : splitNewlines s with
      | nil => exact absurd hs (splitNewlines_ne_nil s)
      | cons line lines =>
        rw [hs] at ih
        simpa [splitNewlines, countNewlines, hc, hs] using ih

/-! ### Runs over lines -/

theorem forall_mem_of_forall₂ {α β : Type} {R : α → β → Prop} {p : α → Prop} {q : β → Prop}
    {l : List α} {l' : List β} (h : List.Forall₂ R l l') (hstep : ∀ a b, R a b → p a → q b)
    (hl : ∀ a ∈ l, p a) : ∀ b ∈ l', q b := by
  induction h with
  | nil => simp
  | cons hab _ ih =>
    obtain ⟨ha, hl⟩ := List.forall_mem_cons.1 hl
    exact List.forall_mem_cons.2 ⟨hstep _ _ hab ha, ih hl⟩

/-- Whether `line` is the first of some lines for which `P` holds; `number` is its number, counted
from one. -/
structure FirstLine (P : List Char → Prop) (lines : List (List Char)) (number : Nat)
    (line : List Char) : Prop where
  holds : P line
  split : ∃ before after, lines = before ++ line :: after ∧ number = before.length + 1 ∧
    ∀ l ∈ before, ¬ P l

/-- A run over lines, the first of which has a given number: `act` says what becomes of a line, and
where it says nothing the run ends with the fault of the line and its number. -/
structure LineByLine {ε : Type} (act : List Char → Option (List Char))
    (fault : Nat → List Char → ε)
    (run : Nat → List (List Char) → Except ε (List (List Char))) : Prop where
  nil : ∀ n, run n [] = .ok []
  cons : ∀ n line lines, run n (line :: lines) =
    match act line with
    | none => .error (fault n line)
    | some rest => (run (n + 1) lines).map (rest :: ·)

namespace LineByLine

variable {ε : Type} {e : ε} {act : List Char → Option (List Char)} {fault : Nat → List Char → ε}
  {run : Nat → List (List Char) → Except ε (List (List Char))} (hrun : LineByLine act fault run)
include hrun

theorem eq_ok_iff :
    run n lines = .ok out ↔ List.Forall₂ (fun line rest => act line = some rest) lines out := by
  induction lines generalizing n out with
  | nil => simp [hrun.nil, eq_comm]
  | cons line lines ih =>
    rw [hrun.cons]
    cases h : act line with
    | none => simp [List.forall₂_cons_left_iff, h]
    | some first =>
      simp only [map_eq_ok_iff, ih, List.forall₂_cons_left_iff, h, Option.some.injEq]
      constructor
      · rintro ⟨more, hmore, rfl⟩
        exact ⟨first, more, rfl, hmore, rfl⟩
      · rintro ⟨_, more, rfl, hmore, rfl⟩
        exact ⟨more, hmore, rfl⟩

/-- A run fails at the first line of which nothing becomes. -/
theorem eq_error_iff : run n lines = .error e ↔ ∃ before line after,
    lines = before ++ line :: after ∧ (∀ l ∈ before, act l ≠ none) ∧ act line = none ∧
      e = fault (n + before.length) line := by
  induction lines generalizing n with
  | nil => simp [hrun.nil]
  | cons line lines ih =>
    rw [hrun.cons]
    cases h : act line with
    | none =>
      constructor
      · intro he
        exact ⟨[], line, lines, rfl, by simp, h, (Except.error.inj he).symm⟩
      · rintro ⟨before, l, after, hsplit, hbefore, -, rfl⟩
        cases before with
        | nil =>
          obtain ⟨rfl, -⟩ := List.cons.inj hsplit
          rfl
        | cons b before =>
          obtain ⟨rfl, -⟩ := List.cons.inj hsplit
          exact absurd h (hbefore line List.mem_cons_self)
    | some first =>
      simp only [map_eq_error_iff, ih]
      constructor
      · rintro ⟨before, l, after, rfl, hbefore, hl, rfl⟩
        refine ⟨line :: before, l, after, rfl, ?_, hl, ?_⟩
        · exact List.forall_mem_cons.2 ⟨by simp [h], hbefore⟩
        · rw [List.length_cons, Nat.add_right_comm, Nat.add_assoc]
      · rintro ⟨before, l, after, hsplit, hbefore, hl, rfl⟩
        cases before with
        | nil =>
          obtain ⟨rfl, -⟩ := List.cons.inj hsplit
          simp [h] at hl
        | cons b before =>
          obtain ⟨rfl, rfl⟩ := List.cons.inj hsplit
          refine ⟨before, l, after, rfl, (List.forall_mem_cons.1 hbefore).2, hl, ?_⟩
          rw [List.length_cons, Nat.add_right_comm, Nat.add_assoc]

theorem eq_error_iff_firstLine : run 1 lines = .error e ↔
    ∃ number line, FirstLine (fun l => act l = none) lines number line ∧ e = fault number line := by
  rw [hrun.eq_error_iff]
  constructor
  · rintro ⟨before, line, after, hsplit, hbefore, hline, rfl⟩
    exact ⟨_, line, ⟨hline, before, after, hsplit, rfl, hbefore⟩, by rw [Nat.add_comm]⟩
  · rintro ⟨_, line, ⟨hline, before, after, hsplit, rfl, hbefore⟩, rfl⟩
    exact ⟨before, line, after, hsplit, hbefore, hline, by rw [Nat.add_comm]⟩

end LineByLine

end Stencil.Text
