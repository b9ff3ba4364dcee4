import Stencil.Yaml.Node
import Stencil.Yaml.Number
import Stencil.Yaml.Typed

/-!
# Values of documents

The value that the text of a document holds. A plain scalar is null, a truth value, a number, a date
or a text by its form; every other scalar is a text unless a type is given. The keys of a mapping differ.
A merge key takes over the entries of another mapping, or of several, the first of which counts
most; the mapping's own entries count more, and with a merge key they need not differ.
-/

namespace Stencil.Yaml

open Stencil.Text Stencil.Number Stencil.Options

inductive DocumentFault where
  | malformed
  | number (cause : NumberFault)
  | date (message : String)
  | truth (word : String)
  /-- A list as a key holds a value of this type, which no key can hold. -/
  | badKey (type : String)

/-! ## Scalars -/

def nullWords : List String :=
  ["", "~", "null", "Null", "NULL"]

def truth? (word : String) : Option Bool :=
  if word == "true" || word == "True" || word == "TRUE" then some true
  else if word == "false" || word == "False" || word == "FALSE" then some false
  else none

/-- The truth value that a word of lower case stands for where a truth value is asked for. -/
def givenTruth? (word : String) : Option Bool :=
  if ["yes", "true", "on"].contains word then some true
  else if ["no", "false", "off"].contains word then some false
  else none

def numberValue {α : Type} (wrap : α → Value) (n : Except NumberFault α) :
    Except DocumentFault Value :=
  (n.map wrap).mapError .number

/-- The value of a plain scalar. The words of merge keys and of default values have no value. -/
def plainValue (text : List Char) : Except DocumentFault Value :=
  let word := String.ofList text
  if nullWords.contains word then .ok .null
  else
    match truth? word, fraction? text, integer? text, date? text with
    | some b, _, _, _ => .ok (.truth b)
    | none, some x, _, _ => numberValue .fraction x
    | none, none, some n, _ => numberValue .integer n
    | none, none, none, some (year, month, day) =>
      (dateValue text year month day).mapError .date
    | none, none, none, none =>
      if word == "<<" || word == "=" then .error .malformed else .ok (.text word)

/-- The value of a scalar to which a type of the core schema is given. -/
def typedValue (type : String) (text : List Char) : Except DocumentFault Value :=
  match type with
  | "str" => .ok (.text (String.ofList text))
  | "null" => .ok .null
  | "bool" =>
    let word := String.ofList (text.map Char.toLower)
    match givenTruth? word with
    | some b => .ok (.truth b)
    | none => .error (.truth word)
  | "int" =>
    match integer? text with
    | some n => numberValue .integer n
    | none => .error .malformed
  | "float" =>
    match fraction? text with
    | some x => numberValue .fraction x
    | none => .error .malformed
  | "timestamp" =>
    match date? text with
    | some (year, month, day) => (dateValue text year month day).mapError .date
    | none => .error .malformed
  | "binary" =>
    match bytes? text with
    | some bytes => .ok (.bytes bytes)
    | none => .error .malformed
  | _ => .error .malformed

def scalarValue (tag : Option Tag) (plain : Bool) (text : List Char) : Except DocumentFault Value :=
  match tag with
  | none => if plain then plainValue text else .ok (.text (String.ofList text))
  | some .nonSpecific => plainValue text
  | some (.core type) => typedValue (String.ofList type) text
  | some .other => .error .malformed

/-! ## Keys and entries -/

/-- Whether a type goes with a collection of the core schema. -/
def allows (type : String) : Option Tag → Bool
  | none => true
  | some .nonSpecific => true
  | some (.core name) => name == type.toList
  | some .other => false

def isWordNode (word : String) : Node → Bool
  | .scalar none true text => text == word.toList
  | _ => false

/-- The key that a value is. A list becomes a tuple. -/
def asKey : Value → Except DocumentFault Value
  | .list items => .ok (.tuple items)
  | .set _ => .error .malformed
  | .mapping _ => .error .malformed
  | v => .ok v

mutual

/-- The type of the first value that no key can hold. -/
def unfit? : Value → Option String
  | .list _ => some "list"
  | .set _ => some "set"
  | .mapping _ => some "dict"
  | .tuple items => unfitItem? items
  | _ => none

def unfitItem? : List Value → Option String
  | [] => none
  | v :: vs => unfit? v <|> unfitItem? vs

end

/-- The entries that a mapping takes over, and its own. -/
structure Entries where
  merged : List (Value × Value)
  own : List (Value × Value)

/-- All entries of a mapping, those that count less first. -/
def Entries.all (e : Entries) : List (Value × Value) :=
  e.merged ++ e.own

/-- Adds an entry; `fresh` says whether the key must be new. -/
def addEntry (fresh : Bool) (entries : List (Value × Value)) (e : Value × Value) :
    Except DocumentFault (List (Value × Value)) :=
  match unfit? e.1 with
  | some type => .error (.badKey type)
  | none =>
    if fresh && entries.any (·.1.same e.1) then .error .malformed
    else .ok (Value.insert entries e.1 e.2)

def Entries.distinct (e : Entries) : Except DocumentFault (List (Value × Value)) :=
  e.all.foldlM (addEntry e.merged.isEmpty) []

/-! ## Nodes -/

mutual

def valueOf : Node → Except DocumentFault Value
  | .scalar tag plain text => scalarValue tag plain text
  | .sequence tag items => do
    if !allows "seq" tag then .error .malformed
    return .list (← valuesOf items)
  | .mapping tag entries => do
    if allows "map" tag then return .mapping (← (← entriesOf entries).distinct)
    else if allows "set" tag then return .set ((← (← entriesOf entries).distinct).map Prod.fst)
    else .error .malformed

def valuesOf : List Node → Except DocumentFault (List Value)
  | [] => .ok []
  | n :: ns => do
    let v ← valueOf n
    return v :: (← valuesOf ns)

def entriesOf : List (Node × Node) → Except DocumentFault Entries
  | [] => .ok ⟨[], []⟩
  | (k, v) :: es =>
    if isWordNode "<<" k then do
      let merged ← sourcesOf v
      let more ← entriesOf es
      if !merged.isEmpty && es.any (isWordNode "<<" ·.1) then .error .malformed
      return { more with merged := merged ++ more.merged }
    else do
      let key ← if isWordNode "=" k then .ok (.text "=") else asKey (← valueOf k)
      let value ← valueOf v
      let more ← entriesOf es
      return { more with own := (key, value) :: more.own }

/-- The entries that a merge key takes over from a node. -/
def sourcesOf : Node → Except DocumentFault (List (Value × Value))
  | .scalar _ _ _ => .error .malformed
  | .mapping _ entries => do return (← entriesOf entries).all
  | .sequence _ items => sourceItemsOf items

/-- The entries that a merge key takes over from mappings; those of later ones count less. -/
def sourceItemsOf : List Node → Except DocumentFault (List (Value × Value))
  | [] => .ok []
  | n :: ns => do
    let first ← sourceOf n
    return (← sourceItemsOf ns) ++ first

def sourceOf : Node → Except DocumentFault (List (Value × Value))
  | .mapping _ entries => do return (← entriesOf entries).all
  | _ => .error .malformed

end

/-! ## Documents -/

def isReadable (c : Char) : Bool :=
  c == '\t' || c == '\n' || c == '\r' || c == '\u0085' || (' ' ≤ c && c ≤ '~') ||
    ('\u00a0' ≤ c && c ≤ '\ufffd') || '\ufffd'.toNat + 2 < c.toNat

/-- The text without a byte order mark in front. -/
def withoutMark : List Char → List Char
  | '\ufeff' :: s => s
  | s => s

/-- The value of a document; an empty text is null. -/
def documentValue (s : List Char) : Except DocumentFault Value :=
  if !s.all isReadable then .error .malformed
  else
    match (tokens (withoutMark s)).bind Node.ofTokens with
    | none => .error .malformed
    | some none => .ok .null
    | some (some node) => valueOf node

end Stencil.Yaml
