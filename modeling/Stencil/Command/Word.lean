import Stencil.Command.Flag
import Stencil.Text.Digit

/-!
# Words of the command line

What each argument is taken for, whatever stands around it: a flag, perhaps with a value in the same
argument, or a value, or something that looks like a flag and is none. Behind an argument of two
dashes there are no flags.
-/

namespace Stencil.Command

open Stencil.Text

/-- A value in the same argument as its flag. -/
structure Attached where
  text : List Char
  /-- Whether an equals sign stands before it. -/
  equals : Bool
  deriving DecidableEq, Repr

inductive Word where
  | dashes
  | plain (text : List Char)
  /-- A flag; `short` says whether it is given by its letter. -/
  | flag (flag : Flag) (short : Bool) (value : Option Attached)
  | unknown (text : List Char)
  deriving DecidableEq, Repr

namespace Word

/-- The parts of a text around the first equals sign. -/
def atEquals (s : List Char) : List Char × Option Attached :=
  match s.dropWhile (· != '=') with
  | [] => (s, none)
  | _ :: value => (s.takeWhile (· != '='), some ⟨value, true⟩)

/-- The flag that a text names in full. -/
def named? : List Char → Option (Flag × Bool)
  | ['-', c] => (Flag.ofLetter? c).map fun f => (f, true)
  | s => (Flag.ofLongName? s).map fun f => (f, false)

/-- Whether a text is a negative number. A line feed may end it. -/
def isNegativeNumber : List Char → Bool
  | '-' :: s =>
    let s := if s.getLast? == some '\n' then s.dropLast else s
    match s.dropWhile isDecimal with
    | [] => !s.isEmpty
    | '.' :: part => !part.isEmpty && part.all isDecimal
    | _ => false
  | _ => false

/-- What a text that begins with a dash is taken for if it names no flag. -/
def unnamed (s : List Char) : Word :=
  if isNegativeNumber s || s.contains ' ' then plain s else unknown s

/-- What a text that begins with two dashes is taken for. -/
def long (s : List Char) : Except Misuse Word :=
  let (front, value) := atEquals s
  match Flag.beginningWith front with
  | [] => .ok (unnamed s)
  | [f] => .ok (flag f false value)
  | several => .error (.ambiguous s several)

def ofArgument (s : List Char) : Except Misuse Word :=
  match s with
  | '-' :: c :: rest =>
    let (front, value) := atEquals s
    match named? s, named? front with
    | some (f, short), _ => .ok (flag f short none)
    | none, some (f, short) => .ok (flag f short value)
    | none, none =>
      if c == '-' then long s
      else
        match Flag.ofLetter? c with
        | some f => .ok (flag f true (some ⟨rest, false⟩))
        | none => .ok (unnamed s)
  | _ => .ok (plain s)

def ofArguments : List (List Char) → Except Misuse (List Word)
  | [] => .ok []
  | s :: more =>
    if s = ['-', '-'] then .ok (dashes :: more.map plain)
    else do
      let word ← ofArgument s
      return word :: (← ofArguments more)

end Word

end Stencil.Command
