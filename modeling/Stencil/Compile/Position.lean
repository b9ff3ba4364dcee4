import Stencil.Number.Decimal
import Stencil.Text.Cursor
import Stencil.Text.Word

/-!
# Positions in messages

A compiler says where it stopped within its message: the words "on line", a line number and, behind
a colon, a column. The first such place counts, and the words must not be the end of a longer word.
-/

namespace Stencil.Compile

open Stencil.Text Stencil.Number

/-- The words in front of a line number. -/
def onLine : List Char :=
  "on line ".toList

/-- The decimal digits in front of a text, if there are any, and what follows them. -/
def digits? (s : List Char) : Option (List Char × List Char) :=
  let digits := s.takeWhile isDecimal
  if digits.isEmpty then none else some (digits, s.dropWhile isDecimal)

/-- The digits of a line, and of a column if there is one, as they stand in a message. -/
structure Spelled where
  line : List Char
  column : Option (List Char)
  deriving DecidableEq, Repr

/-- The position that a text begins with. -/
def spelledAt? (s : List Char) : Option Spelled := do
  let (line, s) ← digits? (← after? onLine s)
  let column := do return (← digits? (← after? [':'] s)).1
  return ⟨line, column⟩

/-- The first position in a text; `inWord` says whether a word character stands in front of it. -/
def spelledFrom? : Bool → List Char → Option Spelled
  | _, [] => none
  | inWord, c :: s =>
    match if inWord then none else spelledAt? (c :: s) with
    | some p => some p
    | none => spelledFrom? (isWord c) s

/-- A line and a column, as far as a message gives them. -/
structure Position where
  line : Option Int
  column : Option Int
  deriving DecidableEq, Repr

namespace Position

def unknown : Position := ⟨none, none⟩

/-- The words for a position; a column without a line says nothing. -/
def words? (p : Position) : Option String :=
  match p.line, p.column with
  | none, _ => none
  | some line, none => some ("line " ++ toString line)
  | some line, some column => some ("line " ++ toString line ++ ", column " ++ toString column)

def ofMessage (message : List Char) : Except TooLong Position :=
  match spelledFrom? false message with
  | none => .ok unknown
  | some spelled => do
    let line ← read spelled.line
    match spelled.column with
    | none => return ⟨some line, none⟩
    | some digits =>
      let column ← read digits
      return ⟨some line, some column⟩

end Position

end Stencil.Compile
