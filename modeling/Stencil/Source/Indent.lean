import Stencil.Text.Blank
import Stencil.Text.Lines
import Stencil.Text.Cursor

/-!
# Common indentation

A source in the indented dialect may stand indented as a whole. Its margin is the run of spaces and
tabs in front of the first line that is not blank. Every such line must begin with the margin, which
is removed; in this dialect indentation has a meaning, so a line that does not is refused and not
mended. Blank lines become empty.
-/

namespace Stencil.Source

open Stencil.Text

structure Misindented where
  /-- The number of the line, counted from one. -/
  line : Nat
  width : Nat
  deriving DecidableEq, Repr

/-- The spaces and tabs in front of the first line that is not blank. -/
def margin (lines : List (List Char)) : List Char :=
  match lines.find? fun line => !allBlank line with
  | some line => line.takeWhile isIndent
  | none => []

def outdentLine (edge line : List Char) : Option (List Char) :=
  if allBlank line then some [] else after? edge line

/-- Removes the margin from lines, the first of which has the given number. -/
def outdentLines (edge : List Char) : Nat → List (List Char) →
    Except Misindented (List (List Char))
  | _, [] => .ok []
  | number, line :: lines =>
    match outdentLine edge line with
    | none => .error ⟨number, edge.length⟩
    | some rest => (outdentLines edge (number + 1) lines).map (rest :: ·)

def stripIndent (s : List Char) : Except Misindented (List Char) :=
  let lines := splitLines s
  (outdentLines (margin lines) 1 lines).map joinNewlines

end Stencil.Source
