import Stencil.Text.Blank
import Stencil.Text.Cursor
import Stencil.Text.Word
import Stencil.Token.Place

/-!
# Units

Whether a value goes on with a unit after some blanks. The unit is all the letters that follow; it
must be one of the known units in any case, must not go on as a name, a function call or a
percentage, and must stand in a value: what ends first is the declaration or the enclosing
parenthesis, not the selector of a block.
-/

namespace Stencil.Adjacency

open Stencil.Text Stencil.Token

def lengthUnits : List String :=
  ["px", "em", "rem", "ex", "ch", "ic", "cap", "lh", "rlh", "vw", "vh", "vi", "vb", "vmin", "vmax",
    "svw", "svh", "lvw", "lvh", "dvw", "dvh", "cqw", "cqh", "cqi", "cqb", "cqmin", "cqmax", "cm",
    "mm", "q", "in", "pt", "pc"]

/-- Angles, times, frequencies, resolutions and the fraction of a grid. -/
def otherUnits : List String :=
  ["deg", "grad", "rad", "turn", "s", "ms", "hz", "khz", "dpi", "dpcm", "dppx", "x", "fr"]

def units : List (List Char) :=
  (lengthUnits ++ otherUnits).map String.toList

def isLetter (c : Char) : Bool :=
  ('a' ≤ c && c ≤ 'z') || ('A' ≤ c && c ≤ 'Z')

def isUnit (letters : List Char) : Bool :=
  units.contains (letters.map Char.toLower)

/-- Whether what follows some letters makes more than a word of them: a longer name, a function
call, or a percent sign. -/
def continuesName : List Char → Bool
  | [] => false
  | c :: _ => isWord c || c == '(' || c == '%' || c == '-'

/-- Whether a text is the rest of a value. Either the statement ends before a block opens, or a
parenthesis closes before any other bracket. -/
def endsValue (s : List Char) : Bool :=
  !opensBlock s || meets isBracket ')' s

/-- Whether a unit that belongs to the value stands at the front of a text. -/
def startsUnit (s : List Char) : Bool :=
  let rest := s.dropWhile isLetter
  isUnit (s.takeWhile isLetter) && !continuesName rest && endsValue rest

end Stencil.Adjacency
