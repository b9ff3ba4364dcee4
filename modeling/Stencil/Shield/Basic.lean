import Stencil.Dialect
import Stencil.Shield.Form
import Stencil.Text.Lines
import Stencil.Token.Markers
import Stencil.Token.Place

/-!
# Shielding and unshielding

Shielding puts a form in the place of every token; the place decides the kind of form. Unshielding
puts tokens back in the place of the forms. The index of a token is read as a number on the way, so
the token that comes back spells its index in plain digits without leading zeros.
-/

namespace Stencil.Shield

open Stencil.Text Stencil.Number Stencil.Token

/-- Whether a percent sign stands here that does not start the next token. -/
def percentFollows (m : Markers) (after : List Char) : Bool :=
  startsWith ['%'] after && !m.opensAt after

def namesProperty (after : List Char) : Bool :=
  startsWith [':'] (stripLeft after)

/-- Among blocks, a token stands for a whole statement if nothing of the statement stands before it
and it neither opens a block nor names a property. -/
def aloneInBlock (p : Place) : Bool :=
  allBlank p.opening && !opensBlock p.after && !namesProperty p.after

/-- How far the first line that is not blank is indented. -/
def nextIndent? (s : List Char) : Option Nat :=
  ((splitLines s).find? fun line => !allBlank line).map fun line => (line.takeWhile isBlank).length

/-- Among indented lines, a token stands for a whole statement if its line holds nothing else and
the next line that is not blank is indented no further. -/
def aloneOnLine (p : Place) : Bool :=
  allBlank p.lineBefore && allBlank p.lineAfter &&
    match nextIndent? p.below with
    | none => true
    | some indent => indent ≤ p.lineBefore.length

def standsAlone : Dialect → Place → Bool
  | .block => aloneInBlock
  | .indented => aloneOnLine

def kindAt (m : Markers) (d : Dialect) (p : Place) : Kind :=
  if percentFollows m p.after then .percent
  else if standsAlone d p then .statement
  else .plain

/-- The form of one token, with what is left of the gap behind it. -/
def formAt (m : Markers) (d : Dialect) (p : Place) (digits gap : List Char) :
    Except TooLong (Form × List Char) := do
  let index ← read digits
  let kind := kindAt m d p
  return (⟨kind, numeral index⟩, gap.drop kind.covered.length)

def shieldCut (m : Markers) (d : Dialect) (s : List Char) : Except TooLong (Cut Form) := do
  let c := m.cut s
  let tail ← (visit m.token (formAt m d) c.head c.tail).mapM id
  return ⟨c.head, tail⟩

def shield (m : Markers) (d : Dialect) (s : List Char) : Except TooLong (List Char) := do
  return (← shieldCut m d s).weave Form.written

/-- The token that a form stands for, with what the form covers. -/
def Form.unshielded (m : Markers) (f : Form) : Except TooLong (List Char) := do
  return m.render (← read f.digits) ++ f.kind.covered

def unshield (m : Markers) (s : List Char) : Except TooLong (List Char) := do
  return (← (Form.lexeme.cut s).traverse (Form.unshielded m)).weave id

end Stencil.Shield
