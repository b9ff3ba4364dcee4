import Stencil.Number.Binary
import Stencil.Number.Decimal
import Stencil.Yaml.Scalar

/-!
# Numbers of documents

Which plain scalars are numbers, and which number each is. Underscores may stand anywhere behind the
first digit and mean nothing. A scalar can have the form of a number and no digits; then it is
misread, and a whole number of too many decimal digits is refused.
-/

namespace Stencil.Yaml

open Stencil.Text Stencil.Number

/-- A scalar that has the form of a number and no digits: what is left of it, and the base of the
number if it is a whole one. -/
structure Misread where
  text : List Char
  base : Option Nat
  deriving DecidableEq, Repr

inductive NumberFault where
  | misread (cause : Misread)
  | tooLong (cause : TooLong)
  deriving DecidableEq, Repr

def signed : List Char → Option Bool × List Char
  | '-' :: s => (some true, s)
  | '+' :: s => (some false, s)
  | s => (none, s)

def isGrouped (c : Char) : Bool :=
  c.isDigit || c == '_'

def ungrouped (s : List Char) : List Char :=
  s.filter (· != '_')

/-! ## Whole numbers -/

def isDigitOf (base : Nat) (c : Char) : Bool :=
  c == '_' || (hexValue? c).any (· < base)

/-- The base of an unsigned whole number, and what follows the mark of the base. -/
def based : List Char → Option (Nat × List Char)
  | '0' :: 'b' :: s => if !s.isEmpty && s.all (isDigitOf 2) then some (2, s) else none
  | '0' :: 'o' :: s => if !s.isEmpty && s.all (isDigitOf 8) then some (8, s) else none
  | '0' :: 'x' :: s => if !s.isEmpty && s.all (isDigitOf 16) then some (16, s) else none
  | s => if !s.isEmpty && s.all isGrouped then some (10, s) else none

def worth (base : Nat) (digits : List Char) : Nat :=
  digits.foldl (fun n c => base * n + (hexValue? c).getD 0) 0

/-- The value of digits of a base. The length of decimal digits only is limited. -/
def natural (base : Nat) (digits : List Char) : Except NumberFault Nat :=
  if digits.isEmpty then .error (.misread ⟨[], some base⟩)
  else if base = 10 then (read digits).mapError .tooLong
  else .ok (worth base digits)

/-- The whole number that a plain scalar is, if it has the form of one. -/
def integer? (s : List Char) : Option (Except NumberFault Int) :=
  if startsWith ['_'] s then none
  else
    let (sign, body) := signed s
    (based body).map fun (base, digits) =>
      (natural base (ungrouped digits)).map fun n => if sign == some true then -n else n

/-! ## Fractions -/

/-- The power of ten of an exponent; an empty text is none. `strict` says whether an exponent has
a sign. -/
def exponent? (strict : Bool) : List Char → Option Int
  | [] => some 0
  | c :: s =>
    let (sign, digits) := signed s
    if (c == 'e' || c == 'E') && (sign.isSome || !strict) && !digits.isEmpty &&
        digits.all Char.isDigit then
      let n : Int := value digits
      some (if sign == some true then -n else n)
    else none

/-- The digits of an unsigned fraction before and behind its point, and its power of ten. -/
def decimal? (s : List Char) : Option (List Char × List Char × Int) :=
  let whole := s.takeWhile isGrouped
  match s.dropWhile isGrouped with
  | '.' :: r =>
    let part := r.takeWhile isGrouped
    if startsWith ['_'] whole || (whole.isEmpty && part.isEmpty) then none
    else (exponent? whole.isEmpty (r.dropWhile isGrouped)).map fun e => (whole, part, e)
  | r =>
    if startsWith ['_'] whole || whole.isEmpty || r.isEmpty then none
    else (exponent? false r).map fun e => (whole, [], e)

def fraction? (s : List Char) : Option (Except NumberFault Binary) :=
  let (sign, body) := signed s
  let negative := sign == some true
  let word := String.ofList body
  if word == ".inf" || word == ".Inf" || word == ".INF" then some (.ok (.infinite negative))
  else if sign.isNone && (word == ".nan" || word == ".NaN" || word == ".NAN") then
    some (.ok .undefined)
  else
    (decimal? body).map fun (whole, part, e) =>
      let digits := ungrouped (whole ++ part)
      if digits.isEmpty then .error (.misread ⟨(ungrouped body).map Char.toLower, none⟩)
      else .ok (.ofDecimal negative (value digits) (e - (ungrouped part).length))

end Stencil.Yaml
