import Stencil.Number.Binary
import Stencil.Number.Decimal

/-!
# Shortest decimals

The decimal that stands for a binary number is the one with the fewest digits among those that read
back as the number, and of these the nearest. All decimals between the midpoints to the two
neighbours read back; the midpoints themselves do if the significand is even. On the grid of decimals
with a fixed number of digits only the two neighbours of the number need to be looked at: if any point
of the grid reads back, one of these does.
-/

namespace Stencil.Number

/-- A decimal: digits behind the point, and how far the point is moved to the right. -/
structure Shortest where
  digits : List Char
  point : Int
  deriving DecidableEq, Repr

namespace Shortest

structure Ratio where
  num : Nat
  den : Nat

namespace Ratio

def less (a b : Ratio) : Bool :=
  a.num * b.den < b.num * a.den

def distance (a b : Ratio) : Ratio :=
  let x := a.num * b.den
  let y := b.num * a.den
  ⟨(x - y) + (y - x), a.den * b.den⟩

def decimal (n : Nat) : Int → Ratio
  | .ofNat k => ⟨n * Nat.pow 10 k, 1⟩
  | .negSucc k => ⟨n, Nat.pow 10 (k + 1)⟩

def binary (n : Nat) (e : Int) : Ratio :=
  let p := Binary.scale n 1 e
  ⟨p.1, p.2⟩

end Ratio

/-- The interval of the decimals that read back as `significand * 2 ^ exponent`. -/
structure Interval where
  low : Ratio
  high : Ratio
  closed : Bool

/-- The interval around a positive number. The neighbour below a power of two is nearer. -/
def around (significand : Nat) (exponent : Int) : Interval where
  low :=
    if significand = Nat.pow 2 52 ∧ Binary.lowest < exponent then
      Ratio.binary (4 * significand - 1) (exponent - 2)
    else Ratio.binary (2 * significand - 1) (exponent - 1)
  high := Ratio.binary (2 * significand + 1) (exponent - 1)
  closed := significand % 2 == 0

def Interval.contains (i : Interval) (r : Ratio) : Bool :=
  if i.closed then !r.less i.low && !i.high.less r else i.low.less r && r.less i.high

/-- The power of ten of the first digit of a positive ratio, found from at most `fuel` places behind
the point. -/
def leading (r : Ratio) : Int :=
  if r.den ≤ r.num then (Nat.toDigits 10 (r.num / r.den)).length - 1
  else below 400 1
where
  below : Nat → Nat → Int
    | 0, k => -k
    | fuel + 1, k => if r.den ≤ r.num * Nat.pow 10 k then -k else below fuel (k + 1)

/-- The best decimal with `count` digits, if one reads back. -/
def onGrid? (value : Ratio) (i : Interval) (first : Int) (count : Nat) : Option (Nat × Int) :=
  let step := first + 1 - count
  let unit := Ratio.decimal 1 step
  let below := value.num * unit.den / (value.den * unit.num)
  let low := Ratio.decimal below step
  let high := Ratio.decimal (below + 1) step
  match i.contains low, i.contains high with
  | true, true =>
    let dl := value.distance low
    let dh := value.distance high
    if dl.less dh || (!dh.less dl && below % 2 == 0) then some (below, step)
    else some (below + 1, step)
  | true, false => some (below, step)
  | false, true => some (below + 1, step)
  | false, false => none

/-- The shortest decimal of a positive number; seventeen digits always suffice. -/
def ofFinite (significand : Nat) (exponent : Int) : Shortest :=
  let value := Ratio.binary significand exponent
  let i := around significand exponent
  let first := leading value
  let (n, step) := ((List.range 17).findSome? fun k => onGrid? value i first (k + 1)).getD (0, 0)
  let all := numeral n
  ⟨(all.reverse.dropWhile (· == '0')).reverse, step + all.length⟩

end Shortest

structure Layout where
  least : Int
  greatest : Int
  exponentDigits : Nat

namespace Layout

def exponent (l : Layout) (e : Int) : List Char :=
  let digits := numeral e.natAbs
  let sign := if e < 0 then '-' else '+'
  'e' :: sign :: List.replicate (l.exponentDigits - digits.length) '0' ++ digits

def positive (l : Layout) (d : Shortest) : List Char :=
  if l.least ≤ d.point ∧ d.point ≤ l.greatest then
    if d.point ≤ 0 then ['0', '.'] ++ List.replicate d.point.natAbs '0' ++ d.digits
    else
      let whole := d.point.toNat
      let missing := whole - d.digits.length
      let fraction := d.digits.drop whole
      d.digits.take whole ++ List.replicate missing '0' ++
        '.' :: (if fraction.isEmpty then ['0'] else fraction)
  else
    let mantissa :=
      match d.digits with
      | first :: c :: more => first :: '.' :: c :: more
      | short => short
    mantissa ++ l.exponent (d.point - 1)

def text (l : Layout) : Binary → List Char
  | .finite negative m e =>
    (if negative then ['-'] else []) ++
      if m = 0 then ['0', '.', '0'] else l.positive (Shortest.ofFinite m e)
  | .infinite negative => (if negative then ['-'] else []) ++ ['i', 'n', 'f']
  | .undefined => ['n', 'a', 'n']

end Layout

end Stencil.Number
