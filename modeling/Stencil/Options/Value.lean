import Stencil.Dialect
import Stencil.Files.Path
import Stencil.Number.Shortest
import Stencil.Text.Quoted

/-!
# Values

What can be given for an option: the values that an options file or a caller can hold. `literal` is
how a value is shown in a message; `plain` differs from it only for texts, moments, paths and dialects,
which it gives as they are. Entries of a mapping are told apart by `same`, under which a number equals
any number of the same value, and truth values count as one and zero.
-/

namespace Stencil.Options

open Stencil.Text Stencil.Number Stencil.Files

/-- A date, or a time on a date: how it is shown in a message, and its text. -/
structure Moment where
  typeName : String
  shown : String
  text : String
  deriving DecidableEq, Repr

inductive Value where
  | null
  | truth (b : Bool)
  | integer (n : Int)
  | fraction (x : Binary)
  | text (s : String)
  | bytes (items : List UInt8)
  | moment (m : Moment)
  | list (items : List Value)
  | tuple (items : List Value)
  | set (items : List Value)
  | mapping (entries : List (Value × Value))
  | path (p : Path)
  | dialect (d : Dialect)
  deriving Inhabited

namespace Value

def ofByte (b : UInt8) : Value :=
  integer b.toNat

/-- Fractions are written without an exponent from four places behind the point to sixteen before
it, and an exponent has at least two digits. -/
def fractionLayout : Layout := ⟨-3, 16, 2⟩

/-- Items between a comma and a space. -/
def commas (items : List (List Char)) : List Char :=
  [',', ' '].intercalate items

/-- A tuple of shown items; one item alone is followed by a comma. -/
def tupleText : List (List Char) → List Char
  | [item] => '(' :: item ++ [',', ')']
  | items => '(' :: commas items ++ [')']

/-- A set of shown items; braces alone would be a mapping. -/
def setText : List (List Char) → List Char
  | [] => "set()".toList
  | items => '{' :: commas items ++ ['}']

mutual

/-- How a value is shown in a message. -/
def literal : Value → List Char
  | null => "None".toList
  | truth true => "True".toList
  | truth false => "False".toList
  | integer n => signedNumeral n
  | fraction x => fractionLayout.text x
  | text s => quoted s.toList
  | bytes items => quotedBytes items
  | moment m => m.shown.toList
  | list items => '[' :: commas (literals items) ++ [']']
  | tuple items => tupleText (literals items)
  | set items => setText (literals items)
  | mapping entries => '{' :: commas (entryLiterals entries) ++ ['}']
  | path p => "PosixPath(".toList ++ quoted p.text ++ [')']
  | dialect d =>
    "<Dialect.".toList ++ d.capitals.toList ++ ": ".toList ++ quoted d.name.toList ++ ['>']

def literals : List Value → List (List Char)
  | [] => []
  | v :: vs => v.literal :: literals vs

def entryLiterals : List (Value × Value) → List (List Char)
  | [] => []
  | (k, v) :: es => (k.literal ++ [':', ' '] ++ v.literal) :: entryLiterals es

end

def shown (v : Value) : String :=
  String.ofList v.literal

mutual

/-- Whether every number in a value can be written: none has more digits than a numeral may have. -/
def isShowable : Value → Bool
  | integer n => n.natAbs < Nat.pow 10 longest
  | list items => areShowable items
  | tuple items => areShowable items
  | set items => areShowable items
  | mapping entries => entriesShowable entries
  | _ => true

def areShowable : List Value → Bool
  | [] => true
  | v :: vs => v.isShowable && areShowable vs

def entriesShowable : List (Value × Value) → Bool
  | [] => true
  | (k, v) :: es => k.isShowable && v.isShowable && entriesShowable es

end

/-- The text of a value. -/
def plain : Value → List Char
  | text s => s.toList
  | moment m => m.text.toList
  | path p => p.text
  | dialect d => "Dialect.".toList ++ d.capitals.toList
  | v => v.literal

/-- Whether a value counts as given: null, false, zero and whatever is empty do not. -/
def isGiven : Value → Bool
  | null => false
  | truth b => b
  | integer n => n != 0
  | fraction x => !x.isZero
  | text s => !s.isEmpty
  | bytes items => !items.isEmpty
  | moment _ => true
  | list items => !items.isEmpty
  | tuple items => !items.isEmpty
  | set items => !items.isEmpty
  | mapping entries => !entries.isEmpty
  | path _ => true
  | dialect _ => true

def typeName : Value → String
  | null => "NoneType"
  | truth _ => "bool"
  | integer _ => "int"
  | fraction _ => "float"
  | text _ => "str"
  | bytes _ => "bytes"
  | moment m => m.typeName
  | list _ => "list"
  | tuple _ => "tuple"
  | set _ => "set"
  | mapping _ => "dict"
  | path _ => "PosixPath"
  | dialect _ => "Dialect"

/-- The integer that a number or a truth value equals, if there is one. -/
def asInteger? : Value → Option Int
  | truth b => some (if b then 1 else 0)
  | integer n => some n
  | fraction x => x.toInt?
  | _ => none

/-- Whether two values that are no lists are the same number, or else the same value. -/
def sameScalar (v w : Value) : Bool :=
  match v.asInteger?, w.asInteger? with
  | some n, some k => n == k
  | some _, none => false
  | none, some _ => false
  | none, none =>
    match v, w with
    | null, null => true
    | fraction x, fraction y => x == y && x != .undefined
    | text s, text t => s == t
    | bytes a, bytes b => a == b
    | moment m, moment n => m == n
    | path p, path q => p == q
    | dialect d, dialect e => d == e
    | _, _ => false

mutual

/-- Whether two values are the same key of a mapping. -/
def same : Value → Value → Bool
  | tuple vs, tuple ws => sameItems vs ws
  | v, w => sameScalar v w

def sameItems : List Value → List Value → Bool
  | [], [] => true
  | v :: vs, w :: ws => same v w && sameItems vs ws
  | _, _ => false

end

mutual

/-- Whether a value can be the key of a mapping: lists, sets and mappings cannot, nor what holds
one. -/
def isKey : Value → Bool
  | list _ => false
  | set _ => false
  | mapping _ => false
  | tuple items => areKeys items
  | _ => true

def areKeys : List Value → Bool
  | [] => true
  | v :: vs => v.isKey && areKeys vs

end

/-- Gives a key its value. A key that is there keeps its place and its spelling. -/
def insert (entries : List (Value × Value)) (key value : Value) : List (Value × Value) :=
  if entries.any fun e => e.1.same key then
    entries.map fun e => if e.1.same key then (e.1, value) else e
  else entries ++ [(key, value)]

def find? (entries : List (Value × Value)) (key : String) : Option Value :=
  (entries.find? fun e => e.1.same (.text key)).map Prod.snd

end Value

end Stencil.Options
