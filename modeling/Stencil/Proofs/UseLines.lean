import Mathlib.Data.List.Forall2
import Mathlib.Data.List.TakeWhile
import Stencil.Proofs.NumberedLines
import Stencil.Proofs.Success
import Stencil.Source.Use

/-!
# Lines with a use rule

A line with a plain use rule is made of few pieces: its indentation, the word, what is loaded in
quotes, perhaps a star, and the rest behind the rule. The reader finds exactly these lines
(`PlainUse.read?_eq_some_iff`). Rewriting changes the word and drops the star. It goes line by line
and is refused at the first line with a use rule of which no import can be made.
-/

namespace Stencil.Source

open Stencil.Text

variable {s r line url rest gap star blanks inner : List Char} {lines lines' : List (List Char)}
  {number : Nat} {q : Char} {u : PlainUse}

/-! ### Pieces -/

structure IsGap (s : List Char) : Prop where
  ne_nil : s ≠ []
  indent : ∀ c ∈ s, isIndent c = true

/-- The star of a plain use rule with the word in front of it; it may be missing. -/
inductive Starred : List Char → Prop
  | plain : Starred []
  | star {gap gap' : List Char} (h : IsGap gap) (h' : IsGap gap') :
      Starred (gap ++ ('a' :: 's' :: (gap' ++ ['*'])))

def EndsRule (rest : List Char) : Prop :=
  rest = [] ∨ ∃ more, rest = ';' :: more

theorem EndsRule.head? (h : EndsRule rest) : ∀ c, rest.head? = some c → c = ';' := by
  intro c hc
  rcases h with rfl | ⟨more, rfl⟩
  · simp at hc
  · simpa using hc.symm

theorem EndsRule.not_isIndent (h : EndsRule rest) :
    ∀ c, rest.head? = some c → isIndent c = false := by
  intro c hc
  rw [h.head? c hc]
  decide

theorem dropWhile_isIndent_append (hs : ∀ c ∈ s, isIndent c = true)
    (hr : ∀ c, r.head? = some c → isIndent c = false) : (s ++ r).dropWhile isIndent = r := by
  rw [dropWhile_append_of_head? hr, List.dropWhile_eq_nil_iff.2 hs, List.nil_append]

theorem takeWhile_isIndent_append (hs : ∀ c ∈ s, isIndent c = true)
    (hr : ∀ c, r.head? = some c → isIndent c = false) : (s ++ r).takeWhile isIndent = s := by
  rw [takeWhile_append_of_head? hr, List.takeWhile_eq_self_iff.2 hs]

theorem afterGap?_append (h : IsGap gap) (hr : ∀ c, r.head? = some c → isIndent c = false) :
    afterGap? (gap ++ r) = some r := by
  obtain ⟨c, gap, rfl⟩ := List.exists_cons_of_ne_nil h.ne_nil
  obtain ⟨hc, hgap⟩ := List.forall_mem_cons.1 h.indent
  rw [List.cons_append, afterGap?, if_pos hc, dropWhile_isIndent_append hgap hr]

theorem afterGap?_eq_some (h : afterGap? s = some r) : ∃ gap, IsGap gap ∧ s = gap ++ r := by
  cases s with
  | nil => simp [afterGap?] at h
  | cons c s =>
    rw [afterGap?] at h
    split_ifs at h with hc
    obtain rfl := Option.some.inj h
    refine ⟨c :: s.takeWhile isIndent, ⟨by simp, ?_⟩, ?_⟩
    · exact List.forall_mem_cons.2 ⟨hc, fun _ => holds_of_mem_takeWhile⟩
    · rw [List.cons_append, List.takeWhile_append_dropWhile]

theorem quotedText?_append (hq : q = '"' ∨ q = '\'') (hinner : q ∉ inner) (rest : List Char) :
    quotedText? (q :: (inner ++ q :: rest)) = some (q :: (inner ++ [q]), rest) := by
  have hquote : (q == '"' || q == '\'') = true := by simpa using hq
  have hinside : ∀ c ∈ inner, (c != q) = true := by
    intro c hc
    have hne : c ≠ q := fun he => hinner (he ▸ hc)
    simpa using hne
  rw [quotedText?, if_pos hquote, List.dropWhile_append_of_pos hinside,
    List.takeWhile_append_of_pos hinside]
  simp

theorem quotedText?_eq_some (h : quotedText? s = some (url, rest)) :
    ∃ q inner, (q = '"' ∨ q = '\'') ∧ q ∉ inner ∧ url = q :: (inner ++ [q]) ∧
      s = q :: (inner ++ q :: rest) := by
  cases s with
  | nil => simp [quotedText?] at h
  | cons q s =>
    rw [quotedText?] at h
    split_ifs at h with hq
    cases hd : s.dropWhile (· != q) with
    | nil => simp [hd] at h
    | cons c more =>
      have hc : c = q := by
        have hhead := List.head?_dropWhile_not (· != q) s
        simpa [hd] using hhead
      rw [hd] at h
      obtain ⟨rfl, rfl⟩ := Prod.mk.inj (Option.some.inj h)
      refine ⟨q, s.takeWhile (· != q), by simpa using hq, fun hmem => ?_, rfl, ?_⟩
      · have := holds_of_mem_takeWhile hmem
        simp at this
      · conv => lhs; rw [← List.takeWhile_append_dropWhile (p := (· != q)) (l := s), hd, hc]

/-- What a star consists of, with the word and the gaps in front of it. -/
def isStar (c : Char) : Bool :=
  isIndent c || c == 'a' || c == 's' || c == '*'

theorem isStar_of_isIndent {c : Char} (h : isIndent c = true) : isStar c = true := by
  simp [isStar, h]

theorem Starred.isStar (h : Starred star) : ∀ c ∈ star, isStar c = true := by
  cases h with
  | plain => simp
  | star h h' =>
    simp only [List.forall_mem_append, List.forall_mem_cons]
    exact ⟨fun c hc => isStar_of_isIndent (h.indent c hc), by decide, by decide,
      fun c hc => isStar_of_isIndent (h'.indent c hc), by decide, by simp⟩

theorem afterStar_append (hstar : Starred star) (hblanks : ∀ c ∈ blanks, isIndent c = true)
    (hrest : EndsRule rest) : afterStar (star ++ (blanks ++ rest)) = blanks ++ rest := by
  unfold afterStar
  cases hstar with
  | plain =>
    -- Behind the blanks stands no `as`, so there is nothing to drop.
    have hnone : after? ['a', 's'] rest = none := by
      rcases hrest with rfl | ⟨more, rfl⟩ <;> rfl
    by_cases hnil : blanks = []
    · subst hnil
      rcases hrest with rfl | ⟨more, rfl⟩ <;> rfl
    · rw [List.nil_append, afterGap?_append ⟨hnil, hblanks⟩ hrest.not_isIndent]
      simp [hnone]
  | @star gap gap' h h' =>
    have hword : ∀ c, ('a' :: 's' :: (gap' ++ '*' :: (blanks ++ rest))).head? = some c →
        isIndent c = false := by
      rintro c ⟨⟩
      decide
    have hsign : ∀ c, ('*' :: (blanks ++ rest)).head? = some c → isIndent c = false := by
      rintro c ⟨⟩
      decide
    have hfirst : afterGap? (gap ++ 'a' :: 's' :: (gap' ++ ['*']) ++ (blanks ++ rest)) =
        some ('a' :: 's' :: (gap' ++ '*' :: (blanks ++ rest))) := by
      simpa using afterGap?_append h hword
    rw [hfirst]
    simp [after?, afterStar.afterStar?, afterGap?_append h' hsign]

theorem afterStar_eq (s : List Char) : ∃ star, Starred star ∧ s = star ++ afterStar s := by
  unfold afterStar
  cases h : (do afterStar.afterStar? (← after? ['a', 's'] (← afterGap? s))) with
  | none => exact ⟨[], .plain, rfl⟩
  | some r =>
    simp only [Option.bind_eq_bind, Option.bind_eq_some_iff, afterStar.afterStar?,
      after?_eq_some_iff] at h
    obtain ⟨_, h₁, _, rfl, _, h₂, rfl⟩ := h
    obtain ⟨gap₁, hgap₁, rfl⟩ := afterGap?_eq_some h₁
    obtain ⟨gap₂, hgap₂, rfl⟩ := afterGap?_eq_some h₂
    exact ⟨_, .star hgap₁ hgap₂, by simp⟩

/-! ### Lines -/

/-- Whether a plain use rule begins a line: indentation, the word, what is loaded in quotes, perhaps
a star, blanks, and then the end of the line or a semicolon. -/
inductive PlainUse.Begins : PlainUse → List Char → Prop
  | intro {indent gap inner star blanks rest : List Char} {q : Char}
      (hindent : ∀ c ∈ indent, isIndent c = true) (hgap : IsGap gap) (hq : q = '"' ∨ q = '\'')
      (hinner : q ∉ inner) (hstar : Starred star) (hblanks : ∀ c ∈ blanks, isIndent c = true)
      (hrest : EndsRule rest) :
      Begins ⟨indent, q :: (inner ++ [q]), rest⟩
        (indent ++ (useWord ++ (gap ++ (q :: (inner ++ q :: (star ++ (blanks ++ rest)))))))

/-- A line that begins, behind spaces and tabs, with the word of a use rule. -/
inductive UseLine : List Char → Prop
  | intro {indent rest : List Char} (hindent : ∀ c ∈ indent, isIndent c = true)
      (hrest : startsWord rest = false) : UseLine (indent ++ (useWord ++ rest))

def PlainUse.LoadsBuiltIn (u : PlainUse) : Prop :=
  ∃ name, u.url.drop 1 = "sass:".toList ++ name

/-- A line with a use rule of which no import can be made. -/
inductive Refused (line : List Char) : Prop
  | form (hline : UseLine line) (h : ∀ u : PlainUse, ¬ u.Begins line)
  | builtIn {u : PlainUse} (h : u.Begins line) (hmodule : u.LoadsBuiltIn)

inductive Rewritten : List Char → List Char → Prop
  | kept {line : List Char} (h : ¬ UseLine line) : Rewritten line line
  | imported {line : List Char} {u : PlainUse} (h : u.Begins line) (hmodule : ¬ u.LoadsBuiltIn) :
      Rewritten line (u.indent ++ importWord ++ u.url ++ u.rest)

theorem dropWhile_isIndent_useWord (hs : ∀ c ∈ s, isIndent c = true) (r : List Char) :
    (s ++ (useWord ++ r)).dropWhile isIndent = useWord ++ r := by
  apply dropWhile_isIndent_append hs
  rintro c ⟨⟩
  decide

theorem beginsUse_iff : beginsUse line = true ↔ UseLine line := by
  unfold beginsUse
  constructor
  · intro h
    split at h
    · next rest hrest =>
      have hline := List.takeWhile_append_dropWhile (p := isIndent) (l := line)
      rw [after?_eq_some_iff.1 hrest] at hline
      rw [← hline]
      exact .intro (fun _ => holds_of_mem_takeWhile) (by simpa using h)
    · exact absurd h (by simp)
  · rintro ⟨hindent, hrest⟩
    rw [dropWhile_isIndent_useWord hindent, after?_append]
    simp [hrest]

theorem PlainUse.isBuiltIn_iff : u.isBuiltIn = true ↔ u.LoadsBuiltIn :=
  startsWith_iff

theorem isWord_of_isIndent {c : Char} (hc : isIndent c = true) : isWord c = false := by
  rcases isIndent_iff.1 hc with rfl | rfl <;> decide +kernel

theorem PlainUse.Begins.useLine (h : u.Begins line) : UseLine line := by
  obtain ⟨hindent, hgap, -, -, -, -, -⟩ := h
  obtain ⟨c, gap, rfl⟩ := List.exists_cons_of_ne_nil hgap.ne_nil
  exact .intro hindent (isWord_of_isIndent (hgap.indent c List.mem_cons_self))

/-- The reader finds the plain use rules that begin lines, and in no more than one way. -/
theorem PlainUse.read?_eq_some_iff : PlainUse.read? line = some u ↔ u.Begins line := by
  constructor
  · intro h
    simp only [PlainUse.read?, Option.bind_eq_bind, Option.bind_eq_some_iff, after?_eq_some_iff,
      Prod.exists] at h
    obtain ⟨_, hword, _, hafter, url, behind, hurl, h⟩ := h
    split_ifs at h with hrest
    obtain rfl := Option.some.inj h
    obtain ⟨gap, hgap, rfl⟩ := afterGap?_eq_some hafter
    obtain ⟨q, inner, hq, hinner, rfl, rfl⟩ := quotedText?_eq_some hurl
    obtain ⟨star, hstar, hbehind⟩ := afterStar_eq behind
    rw [Bool.or_eq_true, startsWith_iff, List.isEmpty_iff] at hrest
    have hline : line = line.takeWhile isIndent ++ (useWord ++ (gap ++ (q :: (inner ++ q ::
        (star ++ ((afterStar behind).takeWhile isIndent ++
          (afterStar behind).dropWhile isIndent)))))) := by
      rw [List.takeWhile_append_dropWhile, ← hbehind, ← hword, List.takeWhile_append_dropWhile]
    have hindent : ∀ c ∈ line.takeWhile isIndent, isIndent c = true :=
      fun _ => holds_of_mem_takeWhile
    have hblanks : ∀ c ∈ (afterStar behind).takeWhile isIndent, isIndent c = true :=
      fun _ => holds_of_mem_takeWhile
    have hbegins := Begins.intro hindent hgap hq hinner hstar hblanks hrest
    rwa [← hline] at hbegins
  · rintro @⟨indent, gap, inner, star, blanks, rest, q, hindent, hgap, hq, hinner, hstar, hblanks,
      hrest⟩
    have hquote (t : List Char) : ∀ c, (q :: t).head? = some c → isIndent c = false := by
      rintro c ⟨⟩
      rcases hq with rfl | rfl <;> decide
    have hsign (t : List Char) : ∀ c, (useWord ++ t).head? = some c → isIndent c = false := by
      rintro c ⟨⟩
      decide
    have hends : (rest.isEmpty || startsWith [';'] rest) = true := by
      rcases hrest with rfl | ⟨more, rfl⟩ <;> rfl
    simp only [PlainUse.read?, dropWhile_isIndent_append hindent (hsign _),
      takeWhile_isIndent_append hindent (hsign _), after?_append, Option.bind_eq_bind,
      Option.bind_some, afterGap?_append hgap (hquote _), quotedText?_append hq hinner,
      afterStar_append hstar hblanks hrest,
      dropWhile_isIndent_append hblanks hrest.not_isIndent, hends, if_true]
    rfl

theorem PlainUse.read?_eq_some {u : PlainUse} (h : PlainUse.read? line = some u) :
    ∃ gap q inner star, (∀ c ∈ u.indent, isIndent c = true) ∧ (∀ c ∈ gap, isIndent c = true) ∧
      (q = '"' ∨ q = '\'') ∧ u.url = q :: (inner ++ [q]) ∧ (∀ c ∈ star, isStar c = true) ∧
      (u.rest = [] ∨ ∃ more, u.rest = ';' :: more) ∧
      line = u.indent ++ useWord ++ gap ++ u.url ++ star ++ u.rest := by
  obtain @⟨indent, gap, inner, star, blanks, rest, q, hindent, hgap, hq, -, hstar, hblanks,
    hrest⟩ := PlainUse.read?_eq_some_iff.1 h
  refine ⟨gap, q, inner, star ++ blanks, hindent, hgap.indent, hq, rfl, ?_, hrest, by simp⟩
  rw [List.forall_mem_append]
  exact ⟨hstar.isStar, fun c hc => isStar_of_isIndent (hblanks c hc)⟩

/-! ### Rewriting -/

theorem rewriteLine_eq_none_iff : rewriteLine line = none ↔ Refused line := by
  unfold rewriteLine
  split
  · next u hu =>
    have hbegins := PlainUse.read?_eq_some_iff.1 hu
    constructor
    · intro h
      split_ifs at h with hmodule
      exact .builtIn hbegins (PlainUse.isBuiltIn_iff.1 hmodule)
    · intro h
      obtain ⟨-, hnone⟩ | ⟨hv, hmodule⟩ := h
      · exact absurd hbegins (hnone u)
      · obtain rfl := Option.some.inj (hu.symm.trans (PlainUse.read?_eq_some_iff.2 hv))
        rw [if_pos (PlainUse.isBuiltIn_iff.2 hmodule)]
  · next hnone =>
    have hnot (u : PlainUse) : ¬ u.Begins line := by
      intro h
      rw [PlainUse.read?_eq_some_iff.2 h] at hnone
      exact absurd hnone (by simp)
    constructor
    · intro h
      split_ifs at h with hline
      exact .form (beginsUse_iff.1 hline) hnot
    · intro h
      obtain ⟨hline, -⟩ | ⟨hv, -⟩ := h
      · rw [if_pos (beginsUse_iff.2 hline)]
      · exact absurd hv (hnot _)

theorem rewriteLine_eq_some_iff {line' : List Char} :
    rewriteLine line = some line' ↔ Rewritten line line' := by
  unfold rewriteLine
  constructor
  · intro h
    split at h
    · next u hu =>
      split_ifs at h with hmodule
      obtain rfl := Option.some.inj h
      exact .imported (PlainUse.read?_eq_some_iff.1 hu) (mt PlainUse.isBuiltIn_iff.2 hmodule)
    · split_ifs at h with hline
      obtain rfl := Option.some.inj h
      exact .kept (mt beginsUse_iff.2 hline)
  · intro h
    cases h with
    | kept hline =>
      have hnone : PlainUse.read? line = none := by
        cases hu : PlainUse.read? line with
        | none => rfl
        | some u => exact absurd (PlainUse.read?_eq_some_iff.1 hu).useLine hline
      rw [hnone]
      simp [beginsUse_iff, hline]
    | imported hbegins hmodule =>
      rw [PlainUse.read?_eq_some_iff.2 hbegins]
      simp [PlainUse.isBuiltIn_iff, hmodule, PlainUse.asImport]

theorem rewriteLine_eq_some {line' : List Char} (h : rewriteLine line = some line') :
    line' = line ∧ beginsUse line = false ∨
      ∃ u, PlainUse.read? line = some u ∧ line' = u.asImport := by
  cases rewriteLine_eq_some_iff.1 h with
  | kept hline => exact .inl ⟨rfl, Bool.eq_false_iff.2 (mt beginsUse_iff.1 hline)⟩
  | imported hbegins _ => exact .inr ⟨_, PlainUse.read?_eq_some_iff.2 hbegins, rfl⟩

theorem lineByLine_rewriteLines :
    LineByLine rewriteLine (fun number line => ⟨strip line, number⟩) rewriteLines where
  nil _ := rfl
  cons _ _ _ := rfl

theorem rewriteLines_eq_ok_iff : rewriteLines number lines = .ok lines' ↔
    List.Forall₂ (fun line line' => rewriteLine line = some line') lines lines' :=
  lineByLine_rewriteLines.eq_ok_iff

theorem rewriteUse_eq_error_iff {e : UnsupportedUse} : rewriteUse s = .error e ↔
    ∃ number line, FirstLine Refused (splitNewlines s) number line ∧ e = ⟨strip line, number⟩ := by
  simp only [rewriteUse, map_eq_error_iff, lineByLine_rewriteLines.eq_error_iff_firstLine,
    rewriteLine_eq_none_iff]

end Stencil.Source
