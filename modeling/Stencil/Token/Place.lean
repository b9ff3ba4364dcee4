import Stencil.Text.Blank
import Stencil.Text.Cursor
import Stencil.Token.Cut

/-!
# Places

What is done about a token depends on the text around it alone. A place is that text, before and
after. A statement runs from behind a semicolon or a brace to the next one; the part of it before
the token, without leading blanks, is the token's statement head.
-/

namespace Stencil.Token

open Stencil.Text

/-- Where a token stands: all text before it, all text after it. -/
structure Place where
  before : List Char
  after : List Char

def isBoundary (c : Char) : Bool :=
  c == ';' || c == '{' || c == '}'

def isBracket (c : Char) : Bool :=
  isBoundary c || c == '(' || c == ')'

/-- Whether the first statement boundary of a text is an opening brace. -/
def opensBlock (s : List Char) : Bool :=
  meets isBoundary '{' s

namespace Place

variable (p : Place)

/-- The text of the current statement before the token. -/
def opening : List Char :=
  behindLast isBoundary p.before

def head : List Char :=
  stripLeft p.opening

def lineBefore : List Char :=
  behindLast (· == '\n') p.before

def lineAfter : List Char :=
  p.after.takeWhile (· != '\n')

def below : List Char :=
  (p.after.dropWhile (· != '\n')).drop 1

/-- More text before a token changes nothing about its statement if a boundary stands between. -/
theorem opening_append {b : List Char} (h : ∃ c ∈ b, isBoundary c = true) (a after : List Char) :
    opening ⟨a ++ b, after⟩ = opening ⟨b, after⟩ :=
  behindLast_append_of_mem h a

end Place

/-- Visits the lexemes behind `before` from left to right. Each is seen with its place and with the
gap that follows it. -/
def visit {α β : Type} (written : α → List Char) (see : Place → α → List Char → β) :
    List Char → List (α × List Char) → List β
  | _, [] => []
  | before, (a, gap) :: more =>
    see ⟨before, gap ++ more.flatMap fun p => written p.1 ++ p.2⟩ a gap ::
      visit written see (before ++ written a ++ gap) more

end Stencil.Token
