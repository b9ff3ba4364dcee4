import Mathlib.Data.List.Induction
import Mathlib.Tactic.SplitIfs
import Stencil.Proofs.UseLines
import Stencil.Token.Place

/-!
# Reading a style sheet from the left

At every place of a style sheet it is known whether a string or a comment is going on, whether a
statement may begin, and whether a line may. A few characters change this; inside of a statement
most of them do not, and a star changes it for no longer than the next character.
-/

namespace Stencil.Source

open Stencil.Text Stencil.Token

inductive Mark where
  | single
  | double
  deriving DecidableEq, Repr

def Mark.char : Mark → Char
  | single => '\''
  | double => '"'

/-- What is going on at a place of a style sheet. A string ends with the line, unless the line feed
is escaped. -/
inductive Region where
  | code
  /-- Code, right behind a slash. -/
  | slash
  | quoted (mark : Mark)
  /-- A string, right behind a backslash. -/
  | escaped (mark : Mark)
  | comment
  /-- A comment, right behind a star. -/
  | star
  | lineComment
  deriving DecidableEq, Repr

namespace Region

def begun (c : Char) : Region :=
  if c = '"' then quoted .double
  else if c = '\'' then quoted .single
  else if c = '/' then slash
  else code

def next : Region → Char → Region
  | code, c => begun c
  | slash, c => if c = '*' then comment else if c = '/' then lineComment else begun c
  | quoted mark, c =>
    if c = mark.char ∨ c = '\n' then code else if c = '\\' then escaped mark else quoted mark
  | escaped mark, _ => quoted mark
  | comment, c => if c = '*' then star else comment
  | star, c => if c = '/' then code else if c = '*' then star else comment
  | lineComment, c => if c = '\n' then code else lineComment

def outside : Region → Bool
  | code => true
  | slash => true
  | _ => false

end Region

structure Context where
  region : Region
  beginsStatement : Bool
  beginsLine : Bool
  deriving DecidableEq, Repr

namespace Context

def start : Context := ⟨.code, true, true⟩

def next (x : Context) (c : Char) : Context where
  region := x.region.next c
  beginsStatement := isBoundary c || x.beginsStatement && isBlank c
  beginsLine := c == '\n' || x.beginsLine && isIndent c

def behind (x : Context) (s : List Char) : Context :=
  s.foldl next x

variable (x : Context)

@[simp] theorem behind_nil : x.behind [] = x := rfl

@[simp] theorem behind_cons (c : Char) (s : List Char) : x.behind (c :: s) = (x.next c).behind s :=
  rfl

@[simp] theorem behind_append (s t : List Char) : x.behind (s ++ t) = (x.behind s).behind t :=
  List.foldl_append

end Context

theorem behindLast_concat (p : Char → Bool) (s : List Char) (c : Char) :
    behindLast p (s ++ [c]) = if p c then [] else behindLast p s ++ [c] := by
  unfold behindLast
  rw [List.reverse_append, List.reverse_singleton, List.singleton_append]
  cases hc : p c <;> simp [hc]

theorem beginsStatement_behind (s : List Char) :
    (Context.start.behind s).beginsStatement = allBlank (behindLast isBoundary s) := by
  induction s using List.reverseRecOn with
  | nil => rfl
  | append_singleton s c ih =>
    rw [Context.behind_append, behindLast_concat, Context.behind_cons, Context.behind_nil,
      Context.next, ih]
    by_cases hc : isBoundary c = true
    · simp [hc, allBlank]
    · simp [hc, allBlank]

theorem beginsLine_behind (s : List Char) :
    (Context.start.behind s).beginsLine = (behindLast (· == '\n') s).all isIndent := by
  induction s using List.reverseRecOn with
  | nil => rfl
  | append_singleton s c ih =>
    rw [Context.behind_append, behindLast_concat, Context.behind_cons, Context.behind_nil,
      Context.next, ih]
    by_cases hc : c = '\n'
    · simp [hc]
    · simp [hc]

/-! ### Inside of a statement -/

/-- A character that begins and ends nothing, neither a statement nor a line, a string, a comment or
a rule. -/
def isQuiet (c : Char) : Bool :=
  !(isBoundary c || c == '\n' || c == '"' || c == '\'' || c == '/' || c == '*' || c == '\\' ||
    c == '@')

theorem isQuiet_of_isIndent {c : Char} (hc : isIndent c = true) : isQuiet c = true := by
  rcases isIndent_iff.1 hc with rfl | rfl <;> decide

theorem isQuiet_of_isStar {c : Char} (hc : isStar c = true) (hne : c ≠ '*') :
    isQuiet c = true := by
  simp only [isStar, Bool.or_eq_true, beq_iff_eq] at hc
  rcases hc with ((hc | rfl) | rfl) | rfl
  · exact isQuiet_of_isIndent hc
  · decide
  · decide
  · exact absurd rfl hne

namespace Region

/-- Whether the next character alone says what goes on. -/
def Settled : Region → Prop
  | slash => False
  | escaped _ => False
  | star => False
  | _ => True

theorem settled_begun {c : Char} (hslash : c ≠ '/') : (begun c).Settled := by
  unfold begun
  split_ifs <;> trivial

theorem settled_next {c : Char} (hslash : c ≠ '/') (hstar : c ≠ '*') (hback : c ≠ '\\')
    (r : Region) : (r.next c).Settled := by
  cases r with
  | code => exact settled_begun hslash
  | slash => simpa [next, hslash, hstar] using settled_begun hslash
  | quoted mark =>
    simp only [next, hback, if_false]
    split_ifs <;> trivial
  | escaped mark => trivial
  | comment => simp [next, hstar, Settled]
  | star => simp [next, hslash, hstar, Settled]
  | lineComment =>
    simp only [next]
    split_ifs <;> trivial

theorem Settled.next_of_isQuiet {r : Region} (hr : r.Settled) {c : Char} (hc : isQuiet c = true) :
    r.next c = r := by
  simp only [isQuiet, Bool.not_eq_true', Bool.or_eq_false_iff, beq_eq_false_iff_ne] at hc
  obtain ⟨⟨⟨⟨⟨⟨⟨-, hline⟩, hdouble⟩, hsingle⟩, hslash⟩, hstar⟩, hback⟩, -⟩ := hc
  cases r with
  | code => simp [next, begun, hdouble, hsingle, hslash]
  | slash => exact hr.elim
  | quoted mark => cases mark <;> simp [next, Mark.char, hline, hdouble, hsingle, hback]
  | escaped mark => exact hr.elim
  | comment => simp [next, hstar]
  | star => exact hr.elim
  | lineComment => simp [next, hline]

theorem Settled.next_star {r : Region} (hr : r.Settled) :
    r.next '*' = r ∨ r = comment ∧ r.next '*' = star := by
  cases r with
  | code => exact .inl rfl
  | slash => exact hr.elim
  | quoted mark => cases mark <;> exact .inl rfl
  | escaped mark => exact hr.elim
  | comment => exact .inr ⟨rfl, rfl⟩
  | star => exact hr.elim
  | lineComment => exact .inl rfl

end Region

namespace Context

structure Inside (x : Context) : Prop where
  region : x.region.Settled
  statement : x.beginsStatement = false
  line : x.beginsLine = false

variable {x y : Context} {c : Char} {s : List Char}

theorem inside_next (hc : c = '@' ∨ c = '"' ∨ c = '\'') (x : Context) : (x.next c).Inside := by
  have hsigns : c ≠ '/' ∧ c ≠ '*' ∧ c ≠ '\\' ∧ c ≠ '\n' := by
    rcases hc with rfl | rfl | rfl <;> decide
  have hblanks : isBoundary c = false ∧ isBlank c = false ∧ isIndent c = false := by
    rcases hc with rfl | rfl | rfl <;> decide
  obtain ⟨hslash, hstar, hback, hline⟩ := hsigns
  obtain ⟨hboundary, hblank, hindent⟩ := hblanks
  refine ⟨Region.settled_next hslash hstar hback _, ?_, ?_⟩
  · simp [next, hboundary, hblank]
  · simp [next, hline, hindent]

theorem Inside.next_eq (hx : x.Inside) (hboundary : isBoundary c = false) (hline : c ≠ '\n') :
    x.next c = { x with region := x.region.next c } := by
  simp [next, hboundary, hline, hx.statement, hx.line]

theorem Inside.next_of_isQuiet (hx : x.Inside) (hc : isQuiet c = true) : x.next c = x := by
  have hregion := hx.region.next_of_isQuiet hc
  simp only [isQuiet, Bool.not_eq_true', Bool.or_eq_false_iff, beq_eq_false_iff_ne] at hc
  obtain ⟨⟨⟨⟨⟨⟨⟨hboundary, hline⟩, -⟩, -⟩, -⟩, -⟩, -⟩, -⟩ := hc
  rw [hx.next_eq hboundary hline, hregion]

theorem Inside.behind_of_isQuiet (hx : x.Inside) (hs : ∀ c ∈ s, isQuiet c = true) :
    x.behind s = x := by
  induction s with
  | nil => rfl
  | cons c s ih =>
    obtain ⟨hc, hs⟩ := List.forall_mem_cons.1 hs
    rw [behind_cons, hx.next_of_isQuiet hc, ih hs]

/-- Whether `y` is `x`, but for a star in a comment. -/
def Trails (x y : Context) : Prop :=
  y = x ∨ x.region = .comment ∧ y = { x with region := .star }

theorem Trails.next_eq (h : Trails x y) (hslash : c ≠ '/') (hstar : c ≠ '*') :
    y.next c = x.next c := by
  rcases h with rfl | ⟨hregion, rfl⟩
  · rfl
  · simp [next, hregion, Region.next, hslash, hstar]

theorem Trails.next_star (hx : x.Inside) (h : Trails x y) : Trails x (y.next '*') := by
  rcases h with rfl | ⟨hcomment, rfl⟩
  · have hnext := hx.next_eq (c := '*') (by decide) (by decide)
    rcases hx.region.next_star with hsame | ⟨hcomment, hstar⟩
    · rw [hnext, hsame]
      exact .inl rfl
    · rw [hnext, hstar]
      exact .inr ⟨hcomment, rfl⟩
  · refine .inr ⟨hcomment, ?_⟩
    have hsign : isBoundary '*' = false := by decide
    simp [next, Region.next, hsign, hx.statement, hx.line]

theorem Trails.next (hx : x.Inside) (h : Trails x y) (hc : isStar c = true) :
    Trails x (y.next c) := by
  by_cases hstar : c = '*'
  · subst hstar
    exact h.next_star hx
  · have hslash : c ≠ '/' := by
      rintro rfl
      exact absurd hc (by decide)
    rw [h.next_eq hslash hstar, hx.next_of_isQuiet (isQuiet_of_isStar hc hstar)]
    exact .inl rfl

theorem Trails.behind (hx : x.Inside) (h : Trails x y) (hs : ∀ c ∈ s, isStar c = true) :
    Trails x (y.behind s) := by
  induction s generalizing y with
  | nil => exact h
  | cons c s ih =>
    obtain ⟨hc, hs⟩ := List.forall_mem_cons.1 hs
    exact ih (h.next hx hc) hs

end Context

end Stencil.Source
