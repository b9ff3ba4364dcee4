/-!
# Binary numbers

Numbers with a binary fraction of 53 bits, and the reading of a decimal as the nearest of them. A
finite number is `significand * 2 ^ exponent` with a significand below `2 ^ 53` and an exponent of
`lowest` at least; unless the exponent is the lowest, the significand is `2 ^ 52` at least. Of two
numbers equally near, the one with the even significand is taken.
-/

namespace Stencil.Number

/-- A binary number, or what stands in its place beyond the range. -/
inductive Binary where
  | finite (negative : Bool) (significand : Nat) (exponent : Int)
  | infinite (negative : Bool)
  | undefined
  deriving DecidableEq, Repr

namespace Binary

def lowest : Int := -1074

def highest : Int := 971

/-- The quotient rounded to the nearest whole number, to the even one in the middle. -/
def roundHalfEven (num den : Nat) : Nat :=
  let low := num / den
  let twice := 2 * (num % den)
  if twice < den then low
  else if den < twice then low + 1
  else if low % 2 == 0 then low else low + 1

/-- The ratio times a power of two, as a ratio. -/
def scale (num den : Nat) (e : Int) : Nat × Nat :=
  match e with
  | .ofNat n => (num * Nat.pow 2 n, den)
  | .negSucc n => (num, den * Nat.pow 2 (n + 1))

/-- The exponent at which a positive ratio has a significand of 53 bits. -/
def exponentOf (num den : Nat) : Int :=
  let e : Int := num.log2 - den.log2
  let (a, b) := scale num den (-e)
  max lowest (if a < b then e - 53 else e - 52)

def ofRatio (negative : Bool) (num den : Nat) : Binary :=
  if num = 0 then .finite negative 0 lowest
  else
    let e := exponentOf num den
    let (a, b) := scale num den (-e)
    let m := roundHalfEven a b
    let (m, e) := if m = Nat.pow 2 53 then (Nat.pow 2 52, e + 1) else (m, e)
    if highest < e then .infinite negative else .finite negative m e

/-- Powers of ten from here on lie beyond the range. -/
def beyond : Int := 310

/-- Powers of ten up to here vanish beside the least positive number. -/
def vanishing : Int := -330

/-- The binary number nearest to `digits * 10 ^ power`. -/
def ofDecimal (negative : Bool) (digits : Nat) (power : Int) : Binary :=
  let width : Int := (Nat.toDigits 10 digits).length
  if digits = 0 then .finite negative 0 lowest
  else if beyond < width + power then .infinite negative
  else if width + power < vanishing then .finite negative 0 lowest
  else
    match power with
    | .ofNat n => ofRatio negative (digits * Nat.pow 10 n) 1
    | .negSucc n => ofRatio negative digits (Nat.pow 10 (n + 1))

def isZero : Binary → Bool
  | finite _ m _ => m == 0
  | _ => false

/-- The integer that the number is, if it is one. -/
def toInt? : Binary → Option Int
  | finite s m e =>
    let (a, b) := scale m 1 e
    if a % b == 0 then some (if s then -(a / b : Nat) else (a / b : Nat)) else none
  | _ => none

end Binary

end Stencil.Number
