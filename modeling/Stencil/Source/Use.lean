import Stencil.Text.Blank
import Stencil.Text.Cursor
import Stencil.Text.Lines
import Stencil.Text.Word

/-!
# Use rules

The compiler knows no modules and would carry a use rule over as it stands. A plain use rule, which
loads a style sheet without a name of its own, says the same as an import and is written as one.
Rules with a name, with settings, or of a built-in module cannot be said so; a line that begins with
one is refused. Only the beginnings of lines are looked at.
-/

namespace Stencil.Source

open Stencil.Text

/-- A line that begins with a use rule that is no import. -/
structure UnsupportedUse where
  rule : List Char
  line : Nat
  deriving DecidableEq, Repr

def useWord : List Char :=
  ['@', 'u', 's', 'e']

def importWord : List Char :=
  ['@', 'i', 'm', 'p', 'o', 'r', 't', ' ']

/-- What follows one space or tab or more. -/
def afterGap? (s : List Char) : Option (List Char) :=
  match s with
  | c :: s => if isIndent c then some (s.dropWhile isIndent) else none
  | [] => none

/-- The quoted text in front, quotes included, and what follows it. There are no escapes. -/
def quotedText? : List Char → Option (List Char × List Char)
  | q :: s =>
    if q == '"' || q == '\'' then
      match s.dropWhile (· != q) with
      | [] => none
      | _ :: rest => some (q :: s.takeWhile (· != q) ++ [q], rest)
    else none
  | [] => none

def afterStar (s : List Char) : List Char :=
  (do afterStar? (← after? ['a', 's'] (← afterGap? s))).getD s
where
  /-- The gap and the star behind the word. -/
  afterStar? (s : List Char) : Option (List Char) := do
    after? ['*'] (← afterGap? s)

structure PlainUse where
  indent : List Char
  url : List Char
  /-- What follows the rule: nothing, or a text that begins with a semicolon. -/
  rest : List Char
  deriving DecidableEq, Repr

namespace PlainUse

def read? (line : List Char) : Option PlainUse := do
  let s ← after? useWord (line.dropWhile isIndent)
  let (url, s) ← quotedText? (← afterGap? s)
  let rest := (afterStar s).dropWhile isIndent
  if rest.isEmpty || startsWith [';'] rest then
    return ⟨line.takeWhile isIndent, url, rest⟩
  else none

def isBuiltIn (u : PlainUse) : Bool :=
  startsWith "sass:".toList (u.url.drop 1)

def asImport (u : PlainUse) : List Char :=
  u.indent ++ importWord ++ u.url ++ u.rest

end PlainUse

def beginsUse (line : List Char) : Bool :=
  match after? useWord (line.dropWhile isIndent) with
  | some rest => !startsWord rest
  | none => false

/-- Rewrites one line, or refuses it. -/
def rewriteLine (line : List Char) : Option (List Char) :=
  match PlainUse.read? line with
  | some u => if u.isBuiltIn then none else some u.asImport
  | none => if beginsUse line then none else some line

def rewriteLines : Nat → List (List Char) → Except UnsupportedUse (List (List Char))
  | _, [] => .ok []
  | number, line :: lines =>
    match rewriteLine line with
    | none => .error ⟨strip line, number⟩
    | some rest => (rewriteLines (number + 1) lines).map (rest :: ·)

/-- Writes every plain use rule of a text as an import. -/
def rewriteUse (s : List Char) : Except UnsupportedUse (List Char) :=
  (rewriteLines 1 (splitNewlines s)).map joinNewlines

end Stencil.Source
