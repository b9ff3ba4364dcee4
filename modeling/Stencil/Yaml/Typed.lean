import Stencil.Number.Decimal
import Stencil.Options.Value

/-!
# Dates and bytes of documents

A plain scalar of the form of a date is one, and it must stand in the calendar. Bytes are written
with sixty-four characters of six bits each, and what is none of these is passed over.
-/

namespace Stencil.Yaml

open Stencil.Number Stencil.Options

/-! ## Dates -/

def date? (s : List Char) : Option (Nat × Nat × Nat) :=
  match s with
  | [y, e, a, r, '-', m, n, '-', d, f] =>
    if [y, e, a, r, m, n, d, f].all Char.isDigit then
      some (value [y, e, a, r], value [m, n], value [d, f])
    else none
  | _ => none

def isLeap (year : Nat) : Bool :=
  year % 4 == 0 && (year % 100 != 0 || year % 400 == 0)

def daysOf (year month : Nat) : Nat :=
  if month = 2 then if isLeap year then 29 else 28
  else if month = 4 ∨ month = 6 ∨ month = 9 ∨ month = 11 then 30
  else 31

/-- A date of the calendar, or what is wrong with it. -/
def dateValue (text : List Char) (year month day : Nat) : Except String Value :=
  if year = 0 then .error "year 0 is out of range"
  else if month = 0 ∨ 12 < month then .error "month must be in 1..12"
  else if day = 0 ∨ daysOf year month < day then .error "day is out of range for month"
  else
    .ok (.moment
      { typeName := "datetime.date"
        shown := "datetime.date(" ++ toString year ++ ", " ++ toString month ++ ", " ++
          toString day ++ ")"
        text := String.ofList text })

/-! ## Bytes -/

/-- The six bits that a character stands for. -/
def sextet? (c : Char) : Option Nat :=
  if 'A' ≤ c ∧ c ≤ 'Z' then some (c.toNat - 'A'.toNat)
  else if 'a' ≤ c ∧ c ≤ 'z' then some (26 + (c.toNat - 'a'.toNat))
  else if '0' ≤ c ∧ c ≤ '9' then some (52 + (c.toNat - '0'.toNat))
  else if c = '+' then some 62
  else if c = '/' then some 63
  else none

/-- The bytes that characters spell. `bits` bits, worth `held`, are left of those before, and as
many equals signs as `pads` stand right in front. Enough of them end the bytes. -/
def bytesFrom (bits held pads : Nat) : List Char → Option (List UInt8)
  | [] => if bits = 0 then some [] else none
  | c :: s =>
    if c = '=' then
      -- Two characters leave four bits and need two signs, three leave two bits and need one.
      if bits = 2 ∨ bits = 4 ∧ 1 ≤ pads then some [] else bytesFrom bits held (pads + 1) s
    else
      match sextet? c with
      | none => bytesFrom bits held pads s
      | some n =>
        let all := 64 * held + n
        if bits = 0 then bytesFrom 6 all 0 s
        else (bytesFrom (bits - 2) (all % 2 ^ (bits - 2)) 0 s).map
          (UInt8.ofNat (all / 2 ^ (bits - 2)) :: ·)

def bytes? (s : List Char) : Option (List UInt8) :=
  if s.all fun c => c.toNat < 0x80 then bytesFrom 0 0 0 s else none

end Stencil.Yaml
