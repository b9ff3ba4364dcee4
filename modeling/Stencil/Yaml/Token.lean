import Stencil.Yaml.Scalar

/-!
# Tokens of documents

A document is read as a list of tokens. Outside of brackets the indentation of lines opens and
closes collections, so tokens are read with the indentations of the open collections in hand. A
colon makes what stands before it on its line a key; the token that says so is put in front of the
key when the colon is seen, so the place where the latest possible key begins is kept for every
level of brackets.
-/

namespace Stencil.Yaml

open Stencil.Text

inductive Tag where
  | core (name : List Char)
  | nonSpecific
  | other
  deriving DecidableEq, Repr

inductive Token where
  | directive
  | documentStart
  | documentEnd
  | blockSequence
  | blockMapping
  | blockEnd
  | sequence
  | sequenceEnd
  | mapping
  | mappingEnd
  | item
  | comma
  | key
  | value
  | alias (name : List Char)
  | anchor (name : List Char)
  | tag (tag : Tag)
  | scalar (plain : Bool) (text : List Char)
  deriving DecidableEq, Repr

/-- The beginning of what may turn out to be a key. -/
structure KeySpot where
  tokens : Nat
  line : Nat
  column : Nat
  offset : Nat
  /-- Whether nothing but a key may stand there. -/
  required : Bool
  deriving DecidableEq, Repr

/-- A document read up to some place. -/
structure Scan where
  rest : List Char
  offset : Nat
  line : Nat
  column : Nat
  /-- The indentation of the innermost collection outside of brackets, below zero at the top. -/
  indent : Int
  outer : List Int
  /-- The latest possible key outside of brackets and inside of each, innermost first. -/
  spots : List (Option KeySpot)
  keyAllowed : Bool
  tokens : Array Token

namespace Scan

def start (s : List Char) : Scan where
  rest := s
  offset := 0
  line := 0
  column := 0
  indent := -1
  outer := []
  spots := [none]
  keyAllowed := true
  tokens := #[]

variable (s : Scan)

def inFlow : Bool :=
  s.spots.length > 1

/-- Goes on to `rest`, which ends the text that is left. -/
def moveTo (rest : List Char) : Scan :=
  let passed := s.rest.take (s.rest.length - rest.length)
  { s with
    rest
    offset := s.offset + passed.length
    line := s.line + passed.countP isBreak
    column := columnAfter s.column passed }

def skip (n : Nat) : Scan :=
  s.moveTo (s.rest.drop n)

def emit (t : Token) : Scan :=
  { s with tokens := s.tokens.push t }

/-- Puts a token behind the first `n` ones. -/
def emitAt (n : Nat) (t : Token) : Scan :=
  { s with tokens := (s.tokens.extract 0 n).push t ++ s.tokens.extract n s.tokens.size }

/-- Whether a key that began at a spot may still end here. -/
def reaches (k : KeySpot) : Bool :=
  k.line == s.line && s.offset ≤ k.offset + 1024

/-- Gives up a possible key; a required one cannot be given up. -/
def dropSpot : Option Scan :=
  match s.spots with
  | some k :: more => if k.required then none else some { s with spots := none :: more }
  | _ => some s

/-- Gives up possible keys that can no longer end here. -/
def dropStale : Option Scan := do
  let spots ← s.spots.mapM fun
    | some k => if s.reaches k then some (some k) else if k.required then none else some none
    | none => some none
  return { s with spots }

def saveSpot : Option Scan :=
  if s.keyAllowed then do
    let s ← s.dropSpot
    let required := !s.inFlow && s.indent == (s.column : Int)
    let k : KeySpot := ⟨s.tokens.size, s.line, s.column, s.offset, required⟩
    return { s with spots := some k :: s.spots.drop 1 }
  else some s

/-- Closes the collections that are indented further than a column. -/
def unroll (column : Int) : Scan :=
  if s.inFlow then s
  else
    let all := s.indent :: s.outer
    let closed := all.takeWhile fun i => column < i
    match all.dropWhile fun i => column < i with
    | [] => s
    | indent :: outer =>
      { s with
        indent, outer
        tokens := s.tokens ++ Array.replicate closed.length Token.blockEnd }

/-- Opens a collection at a column, unless one is open that is indented as far. The token goes
behind the first `n` ones. -/
def roll (column n : Nat) (t : Token) : Scan :=
  if s.inFlow || (column : Int) ≤ s.indent then s
  else { s.emitAt n t with indent := column, outer := s.indent :: s.outer }

/-- Passes over blanks, comments and line breaks. A line break outside of brackets allows a key. A
tab is passed over only where no key may begin. The fuel bounds the number of lines. -/
def skipGaps : Nat → Scan → Scan
  | 0, s => s
  | fuel + 1, s =>
    let rest := if s.offset == 0 && startsWith ['\ufeff'] s.rest then s.rest.drop 1 else s.rest
    let tabs := s.inFlow || !s.keyAllowed
    let rest := rest.dropWhile fun c => c == ' ' || (tabs && c == '\t')
    let rest := if startsWith ['#'] rest then rest.dropWhile fun c => !isBreak c else rest
    match rest with
    | c :: below =>
      if isBreak c then
        let s := s.moveTo below
        skipGaps fuel { s with keyAllowed := s.keyAllowed || !s.inFlow }
      else s.moveTo rest
    | [] => s.moveTo rest

/-- Ends every collection, for a mark between documents or the end. -/
def closeAll : Option Scan := do
  let s ← (s.unroll (-1)).dropSpot
  return { s with keyAllowed := false }

def documentMark (t : Token) : Option Scan := do
  return ((← s.closeAll).emit t).skip 3

/-- The stretches of a line between blanks. -/
def wordsOf (line : List Char) : List (List Char) :=
  (line.splitBy fun c d => !isIndent c && !isIndent d).filter fun word => !word.any isIndent

/-- Whether a directive is in order: the version 1.1 or 1.2, or a handle for tags with its meaning. -/
def knownDirective (line : List Char) : Bool :=
  match (wordsOf (line.takeWhile (· != '#'))).map String.ofList with
  | ["%YAML", version] => version == "1.1" || version == "1.2"
  | ["%TAG", _, _] => true
  | _ => false

def directive : Option Scan := do
  let line := s.rest.takeWhile fun c => !isBreak c
  if knownDirective line then return ((← s.closeAll).emit .directive).skip line.length else none

def openFlow (t : Token) : Option Scan := do
  let s ← s.saveSpot
  return ({ s with spots := none :: s.spots, keyAllowed := true }.emit t).skip 1

def closeFlow (t : Token) : Option Scan := do
  let s ← s.dropSpot
  let spots := if s.inFlow then s.spots.drop 1 else s.spots
  return ({ s with spots, keyAllowed := false }.emit t).skip 1

def comma : Option Scan := do
  let s ← s.dropSpot
  return ({ s with keyAllowed := true }.emit .comma).skip 1

/-- The dash in front of an item. -/
def item : Option Scan := do
  if !s.inFlow && !s.keyAllowed then none
  let s ← (s.roll s.column s.tokens.size .blockSequence).dropSpot
  return ({ s with keyAllowed := true }.emit .item).skip 1

/-- The question mark in front of a key. -/
def key : Option Scan := do
  if !s.inFlow && !s.keyAllowed then none
  let s ← (s.roll s.column s.tokens.size .blockMapping).dropSpot
  return ({ s with keyAllowed := !s.inFlow }.emit .key).skip 1

/-- The colon in front of a value. -/
def value : Option Scan := do
  match s.spots with
  | some k :: more =>
    let s := { s with spots := none :: more, keyAllowed := false }
    let s := (s.emitAt k.tokens .key).roll k.column k.tokens .blockMapping
    return (s.emit .value).skip 1
  | _ =>
    if !s.inFlow && !s.keyAllowed then none
    let s := s.roll s.column s.tokens.size .blockMapping
    return ({ s with keyAllowed := !s.inFlow }.emit .value).skip 1

def isNameChar (c : Char) : Bool :=
  c.isAlphanum || c == '_' || c == '-'

def endsName : List Char → Bool
  | [] => true
  | c :: _ => isGap c || "?:,]\x7d%@`".toList.contains c

/-- An anchor, or an alias for one. -/
def named (t : List Char → Token) : Option Scan := do
  let s ← s.saveSpot
  let name := (s.rest.drop 1).takeWhile isNameChar
  let rest := (s.rest.drop 1).dropWhile isNameChar
  if name.isEmpty || !endsName rest then none
  return ({ s with keyAllowed := false }.emit (t name)).moveTo rest

def tagOf (text : List Char) : Tag :=
  match text with
  | ['!'] => .nonSpecific
  | '!' :: '!' :: name => .core name
  | _ => .other

def tagged : Option Scan := do
  let s ← s.saveSpot
  let isTagChar (c : Char) : Bool := !isGap c && !isFlow c
  let text := s.rest.takeWhile isTagChar
  let rest := s.rest.dropWhile isTagChar
  if !atGap rest && !startsWith [','] rest then none
  return ({ s with keyAllowed := false }.emit (.tag (tagOf text))).moveTo rest

def blockScalar (folded : Bool) : Option Scan := do
  let s ← s.dropSpot
  let (text, rest) ← block folded s.indent (s.rest.drop 1)
  return ({ s with keyAllowed := true }.emit (.scalar false text)).moveTo rest

def quotedScalar (read : List Char → Option (List Char × List Char)) : Option Scan := do
  let s ← s.saveSpot
  let (text, rest) ← read (s.rest.drop 1)
  return ({ s with keyAllowed := false }.emit (.scalar false text)).moveTo rest

/-- A plain scalar. If it goes over its line, a key may begin behind it. -/
def plainScalar : Option Scan := do
  let s ← s.saveSpot
  let scalar ← plain s.inFlow (s.indent + 1).toNat s.column s.rest
  return ({ s with keyAllowed := scalar.brokeLine }.emit (.scalar true scalar.text)).moveTo scalar.rest

/-- The characters that a plain scalar does not begin with unless more is known. -/
def indicators : List Char :=
  "-?:,[]\x7b\x7d#&*!|>'\"%@`".toList

def beginsPlain (c : Char) (after : List Char) : Bool :=
  (!isGap c && !indicators.contains c) || (c == '-' && !atBlank after) ||
    (!s.inFlow && (c == '?' || c == ':') && !atGap after)

/-- Reads one token, and those that the indentation adds. -/
def token : Option Scan := do
  let s ← s.dropStale
  let s := s.unroll s.column
  match s.rest with
  | [] => none
  | c :: after =>
    if s.column == 0 && c == '%' then s.directive
    else if s.column == 0 && atDocumentMark s.rest then
      s.documentMark (if c == '-' then .documentStart else .documentEnd)
    else if c == '[' then s.openFlow .sequence
    else if c == '{' then s.openFlow .mapping
    else if c == ']' then s.closeFlow .sequenceEnd
    else if c == '}' then s.closeFlow .mappingEnd
    else if c == ',' then s.comma
    else if c == '-' && atGap after then s.item
    else if c == '?' && (s.inFlow || atGap after) then s.key
    else if c == ':' && (s.inFlow || atGap after) then s.value
    else if c == '*' then s.named .alias
    else if c == '&' then s.named .anchor
    else if c == '!' then s.tagged
    else if c == '|' && !s.inFlow then s.blockScalar false
    else if c == '>' && !s.inFlow then s.blockScalar true
    else if c == '\'' then s.quotedScalar singleQuoted
    else if c == '"' then s.quotedScalar doubleQuoted
    else if s.beginsPlain c after then s.plainScalar
    else none

/-- Reads all tokens. The fuel bounds their number. -/
def run : Nat → Scan → Option Scan
  | 0, _ => none
  | fuel + 1, s =>
    let s := s.skipGaps (s.rest.length + 1)
    if s.rest.isEmpty then do
      let s ← s.dropStale
      s.closeAll
    else
      match s.token with
      | some next => run fuel next
      | none => none

end Scan

/-- The tokens of a document. Every token but the closing ones takes at least one character. -/
def tokens (s : List Char) : Option (List Token) := do
  let done ← Scan.run (s.length + 1) (Scan.start s)
  return done.tokens.toList

end Stencil.Yaml
