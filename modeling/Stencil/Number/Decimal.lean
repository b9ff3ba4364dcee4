import Stencil.Text.Blank
import Stencil.Text.Digit

/-!
# Decimal numerals

The value of a run of decimal digits of any script, and its numeral in plain digits. Reading
refuses a numeral of more than `longest` digits, leading zeros included; the cost of converting
grows with the square of the length.
-/

namespace Stencil.Number

open Stencil.Text

/-- The most digits that a numeral is read with. -/
def longest : Nat := 4300

structure TooLong where
  digits : Nat
  deriving DecidableEq, Repr

/-- What the digits are worth in their order, the first one most. -/
def value (digits : List Char) : Nat :=
  digits.foldl (fun n c => 10 * n + (digitValue? c).getD 0) 0

/-- The numeral of `n` in plain digits, without leading zeros. -/
def numeral (n : Nat) : List Char :=
  Nat.toDigits 10 n

/-- Reads a run of digits, unless it is too long. -/
def read (digits : List Char) : Except TooLong Nat :=
  if digits.length ≤ longest then .ok (value digits) else .error ⟨digits.length⟩

theorem read_eq_ok_iff {digits : List Char} {n : Nat} :
    read digits = .ok n ↔ digits.length ≤ longest ∧ n = value digits := by
  unfold read
  split <;> rename_i h
  · simp [h, eq_comm]
  · simp [h]

def signedNumeral : Int → List Char
  | .ofNat n => numeral n
  | .negSucc n => '-' :: numeral (n + 1)

inductive NotInteger where
  | malformed
  | tooLong (cause : TooLong)
  deriving DecidableEq, Repr

/-- The digits of a numeral in which single underscores may stand between digits. -/
def ungroup : List Char → Option (List Char)
  | [] => none
  | [c] => if isDecimal c then some [c] else none
  | c :: '_' :: s => if isDecimal c then (ungroup s).map (c :: ·) else none
  | c :: s => if isDecimal c then (ungroup s).map (c :: ·) else none

/-- The text without the white space around it. -/
def bare (s : List Char) : List Char :=
  ((s.dropWhile isSpacing).reverse.dropWhile isSpacing).reverse

/-- Reads an integer: white space around it, one sign, and digits grouped by single underscores. -/
def readInteger (s : List Char) : Except NotInteger Int := do
  let (negative, digits) :=
    match bare s with
    | '-' :: r => (true, r)
    | '+' :: r => (false, r)
    | r => (false, r)
  match ungroup digits with
  | none => .error .malformed
  | some ds =>
    match read ds with
    | .error cause => .error (.tooLong cause)
    | .ok n => .ok (if negative then -n else n)

end Stencil.Number
