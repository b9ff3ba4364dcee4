import Stencil.Options.Value

/-!
# Entries of a value

A caller may give options as anything that holds pairs: a mapping, or a sequence of pairs, where a
pair is any sequence of two, also a text of two characters. Later pairs win over earlier ones with
the same key.
-/

namespace Stencil.Options

inductive EntriesFault where
  | noItems (type : String)
  | noSequence (index : Nat)
  /-- The item with this number is a sequence of another length than two. -/
  | noPair (index length : Nat)
  | noKey (type : String)
  deriving DecidableEq, Repr

namespace EntriesFault

def message : EntriesFault → String
  | noItems type => "'" ++ type ++ "' object is not iterable"
  | noSequence index =>
    "cannot convert dictionary update sequence element #" ++ toString index ++ " to a sequence"
  | noPair index length =>
    "dictionary update sequence element #" ++ toString index ++ " has length " ++ toString length ++
      "; 2 is required"
  | noKey type => "unhashable type: '" ++ type ++ "'"

end EntriesFault

namespace Value

/-- The items of a value: the characters of a text, the numbers of bytes, the keys of a mapping. -/
def items? : Value → Option (List Value)
  | text s => some (s.toList.map fun c => text (String.singleton c))
  | bytes items => some (items.map ofByte)
  | list items => some items
  | tuple items => some items
  | set items => some items
  | mapping entries => some (entries.map Prod.fst)
  | _ => none

/-- Collects pairs, the first of which has the given number, into entries. -/
def collectPairs (entries : List (Value × Value)) : Nat → List Value →
    Except EntriesFault (List (Value × Value))
  | _, [] => .ok entries
  | index, item :: more =>
    match item.items? with
    | none => .error (.noSequence index)
    | some [key, value] =>
      if key.isKey then collectPairs (insert entries key value) (index + 1) more
      else .error (.noKey key.typeName)
    | some parts => .error (.noPair index parts.length)

def entries (v : Value) : Except EntriesFault (List (Value × Value)) :=
  match v with
  | mapping entries => .ok entries
  | v =>
    match v.items? with
    | some items => collectPairs [] 0 items
    | none => .error (.noItems v.typeName)

end Value

end Stencil.Options
