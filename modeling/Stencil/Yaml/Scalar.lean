import Stencil.Text.Blank
import Stencil.Text.Cursor

/-!
# Scalars of documents

How the text of a scalar is read: plain, in single quotes, in double quotes, and as a block. A
scalar may go on over several lines. Inside plain and quoted scalars a stretch of blanks and line
breaks is folded: blanks around breaks are dropped, one break becomes a space, and of several breaks
the first is dropped. A block keeps its lines, or folds them except where a line is indented further.

Every function takes the text from the scalar on and returns what it read and the text behind it;
it returns nothing if the text is no such scalar.
-/

namespace Stencil.Yaml

open Stencil.Text

def isBreak (c : Char) : Bool :=
  c == '\n' || c == '\r' || c == '\u0085' || c == '\u2028' || c == '\u2029'

/-- What a line break stands for in a scalar. -/
def breakText (c : Char) : Char :=
  if c == '\u2028' || c == '\u2029' then c else '\n'

def isGap (c : Char) : Bool :=
  isIndent c || isBreak c

def atGap : List Char → Bool
  | [] => true
  | c :: _ => isGap c

/-- A character that a collection in brackets uses. -/
def isFlow (c : Char) : Bool :=
  c == ',' || c == '[' || c == ']' || c == '{' || c == '}'

/-- Whether a mark between documents stands here; it counts at the beginning of a line only. -/
def atDocumentMark (s : List Char) : Bool :=
  match after? ['-', '-', '-'] s, after? ['.', '.', '.'] s with
  | some r, _ => atGap r
  | none, some r => atGap r
  | none, none => false

def columnAfter (column : Nat) (consumed : List Char) : Nat :=
  if consumed.any isBreak then (behindLast isBreak consumed).length
  else column + consumed.length

def breaksOf (gap : List Char) : List Char :=
  (gap.filter isBreak).map breakText

/-- What a gap inside a scalar stands for. -/
def fold (gap : List Char) : List Char :=
  match breaksOf gap with
  | [] => gap
  | ['\n'] => [' ']
  | '\n' :: more => more
  | breaks => breaks

/-! ## Plain scalars -/

/-- A scalar and the text behind it; `brokeLine` says whether the gap behind a plain scalar, which
is passed over with it, holds a line break. -/
structure Scalar where
  text : List Char
  rest : List Char
  brokeLine : Bool

/-- Whether a colon that cannot stand in a collection in brackets is here. -/
def badColon (c : Char) : List Char → Bool
  | d :: _ => c == ':' && (isFlow d || d == '?')
  | [] => false

/-- The characters of a plain scalar up to the next gap or indicator. -/
def plainChunk (flow : Bool) : List Char → Option (List Char × List Char)
  | [] => some ([], [])
  | c :: s =>
    if isGap c then some ([], c :: s)
    else if flow && badColon c s then none
    else if (c == ':' && atGap s) || (flow && isFlow c) then some ([], c :: s)
    else (plainChunk flow s).map fun p => (c :: p.1, p.2)

/-- Whether a tab stands in a gap where a line must be indented. -/
def tabIndents (indent : Nat) : Bool → Nat → List Char → Bool
  | _, _, [] => false
  | inLine, column, c :: gap =>
    if isBreak c then tabIndents indent true 0 gap
    else (inLine && column < indent && c == '\t') || tabIndents indent inLine (column + 1) gap

/-- Reads a plain scalar from a column. Outside of brackets its further lines are indented by
`indent` at least. The fuel bounds the number of chunks. -/
def plainFrom (flow : Bool) (indent : Nat) : Nat → Nat → List Char → Option Scalar
  | 0, _, _ => none
  | fuel + 1, column, s => do
    let (chunk, s) ← plainChunk flow s
    let gap := s.takeWhile isGap
    let rest := s.dropWhile isGap
    let column := columnAfter (column + chunk.length) gap
    let broke := gap.any isBreak
    let stop : Scalar := ⟨chunk, rest, broke⟩
    if gap.isEmpty then return stop
    else if tabIndents indent false 0 gap then none
    else if !flow && column < indent then return stop
    else if column == 0 && atDocumentMark rest then return stop
    else
      match rest with
      | [] => return stop
      | c :: s =>
        if c == '#' || (c == ':' && atGap s) || (flow && isFlow c) then return stop
        else
          let more ← plainFrom flow indent fuel column rest
          return { more with text := chunk ++ fold gap ++ more.text }

def plain (flow : Bool) (indent column : Nat) (s : List Char) : Option Scalar :=
  plainFrom flow indent (s.length + 1) column s

/-! ## Quoted scalars -/

def singleChunk : List Char → List Char × List Char
  | '\'' :: '\'' :: s => ('\'' :: (singleChunk s).1, (singleChunk s).2)
  | [] => ([], [])
  | c :: s =>
    if isGap c || c == '\'' then ([], c :: s)
    else (c :: (singleChunk s).1, (singleChunk s).2)

def hexValue? (c : Char) : Option Nat :=
  if c.isDigit then some (c.toNat - '0'.toNat)
  else if 'a' ≤ c && c ≤ 'f' then some (c.toNat - 'a'.toNat + 10)
  else if 'A' ≤ c && c ≤ 'F' then some (c.toNat - 'A'.toNat + 10)
  else none

/-- The character whose code is written by `width` hexadecimal digits. -/
def coded (width : Nat) (s : List Char) : Option (Char × List Char) := do
  let digits := s.take width
  if digits.length < width then none
  let values ← digits.mapM hexValue?
  let code := values.foldl (fun n d => 16 * n + d) 0
  if h : code.isValidChar then return (Char.ofNatAux code h, s.drop width) else none

def escaped? : Char → Option Char
  | '0' => some '\x00'
  | 'a' => some '\x07'
  | 'b' => some '\x08'
  | 't' => some '\t'
  | '\t' => some '\t'
  | 'n' => some '\n'
  | 'v' => some '\x0b'
  | 'f' => some '\x0c'
  | 'r' => some '\r'
  | 'e' => some '\x1b'
  | ' ' => some ' '
  | '"' => some '"'
  | '/' => some '/'
  | '\\' => some '\\'
  | 'N' => some '\u0085'
  | '_' => some '\u00a0'
  | 'L' => some '\u2028'
  | 'P' => some '\u2029'
  | _ => none

def codeWidth? : Char → Option Nat
  | 'x' => some 2
  | 'u' => some 4
  | 'U' => some 8
  | _ => none

/-- The character that an escape stands for; the text is the one behind the backslash. -/
def escape : List Char → Option (Char × List Char)
  | [] => none
  | c :: s =>
    match codeWidth? c with
    | some width => coded width s
    | none => (escaped? c).map fun d => (d, s)

/-- A chunk of a scalar in double quotes, and whether an escaped line break ends it. -/
structure Chunk where
  text : List Char
  rest : List Char
  escapedBreak : Bool

/-- Reads a chunk up to the next gap or quote, or past an escaped line break. -/
def doubleChunk : Nat → List Char → Option Chunk
  | 0, _ => none
  | _, [] => some ⟨[], [], false⟩
  | fuel + 1, c :: s =>
    if isGap c || c == '"' then some ⟨[], c :: s, false⟩
    else if c == '\\' then
      match s with
      | [] => none
      | d :: rest =>
        if isBreak d then some ⟨[], rest, true⟩
        else do
          let (e, s) ← escape s
          let more ← doubleChunk fuel s
          return { more with text := e :: more.text }
    else (doubleChunk fuel s).map fun more => { more with text := c :: more.text }

/-- Whether a mark between documents stands behind a gap, at the beginning of a line. -/
def marksBehind (broke : Bool) (gap rest : List Char) : Bool :=
  (broke || gap.any isBreak) && columnAfter 0 gap == 0 && atDocumentMark rest

/-- Reads the inside of a quoted scalar up to and with the closing quote. -/
def quotedFrom (quote : Char) (chunk : List Char → Option Chunk) : Nat → List Char →
    Option (List Char × List Char)
  | 0, _ => none
  | fuel + 1, s => do
    let part ← chunk s
    match part.rest with
    | [] => none
    | c :: behind =>
      if c == quote then return (part.text, behind)
      else
        let gap := part.rest.takeWhile isGap
        let rest := part.rest.dropWhile isGap
        if marksBehind part.escapedBreak gap rest then none
        else
          let joined := if part.escapedBreak then breaksOf gap else fold gap
          let (more, rest) ← quotedFrom quote chunk fuel rest
          return (part.text ++ joined ++ more, rest)

def singleQuoted (s : List Char) : Option (List Char × List Char) :=
  let chunk (s : List Char) : Option Chunk :=
    let (text, rest) := singleChunk s
    some ⟨text, rest, false⟩
  quotedFrom '\'' chunk (s.length + 1) s

def doubleQuoted (s : List Char) : Option (List Char × List Char) :=
  quotedFrom '"' (fun s => doubleChunk (s.length + 1) s) (s.length + 1) s

/-! ## Blocks -/

/-- What becomes of the breaks at the end of a block. -/
inductive Chomping where
  | strip
  | clip
  | keep
  deriving DecidableEq, Repr

structure Header where
  chomping : Chomping
  increment : Option Nat

def chomping? : List Char → Option (Chomping × List Char)
  | '+' :: s => some (.keep, s)
  | '-' :: s => some (.strip, s)
  | _ => none

/-- Reads an indentation increment; a zero is none. -/
def increment? : List Char → Option (Nat × List Char)
  | c :: s => if c.isDigit then some (c.toNat - '0'.toNat, s) else none
  | [] => none

def header (s : List Char) : Option (Header × List Char) := do
  let (h, s) : Header × List Char :=
    match chomping? s with
    | some (chomping, s) =>
      match increment? s with
      | some (n, s) => (⟨chomping, some n⟩, s)
      | none => (⟨chomping, none⟩, s)
    | none =>
      match increment? s with
      | some (n, s) =>
        match chomping? s with
        | some (chomping, s) => (⟨chomping, some n⟩, s)
        | none => (⟨.clip, some n⟩, s)
      | none => (⟨.clip, none⟩, s)
  if h.increment == some 0 then none
  let s := s.dropWhile isIndent
  let s := if startsWith ['#'] s then s.dropWhile fun c => !isBreak c else s
  match s with
  | [] => return (h, [])
  | c :: s => if isBreak c then return (h, s) else none

/-- The empty lines in front of a line of a block. -/
structure Lead where
  breaks : List Char
  rest : List Char
  column : Nat
  /-- The greatest column of a line passed over. -/
  widest : Nat

/-- Passes over empty lines. Up to `limit` spaces are passed over in each line, all of them if there
is no limit yet; a tab among them is refused. -/
def lead (limit : Option Nat) : Nat → Nat → List Char → Option Lead
  | 0, _, _ => none
  | fuel + 1, widest, s =>
    let spaces := (s.takeWhile (· == ' ')).length
    let column := match limit with
      | some n => min n spaces
      | none => spaces
    let short := match limit with
      | some n => column < n
      | none => true
    let widest := max widest column
    match s.drop column with
    | [] => some ⟨[], [], column, widest⟩
    | c :: rest =>
      if short && c == '\t' then none
      else if isBreak c then
        (lead limit fuel widest rest).map fun l => { l with breaks := breakText c :: l.breaks }
      else some ⟨[], c :: rest, column, widest⟩

def atBlank : List Char → Bool
  | c :: _ => isIndent c
  | [] => false

/-- The lines of a block read so far, and the breaks that are not part of it yet. -/
structure Block where
  text : List Char
  lastBreak : List Char
  /-- The breaks of empty lines behind it. -/
  breaks : List Char
  rest : List Char

/-- How the lines of a block are joined. `indented` says whether one of the two begins with a
blank, in which case they are not folded. -/
def joint (folded indented : Bool) (lastBreak breaks : List Char) : List Char :=
  if folded && !indented && lastBreak == ['\n'] then
    if breaks.isEmpty then [' '] else breaks
  else lastBreak ++ breaks

def blockLines (folded : Bool) (indent : Nat) : Nat → Bool → Block → Nat → Option Block
  | 0, _, _, _ => none
  | fuel + 1, wasBlank, b, column =>
    if column != indent || b.rest.isEmpty then some b
    else
      let blank := atBlank b.rest
      let line := b.rest.takeWhile fun c => !isBreak c
      let text := b.text ++ joint folded (wasBlank || blank) b.lastBreak b.breaks ++ line
      match b.rest.dropWhile fun c => !isBreak c with
      | [] => some ⟨text, [], [], []⟩
      | c :: rest => do
        let l ← lead (some indent) (rest.length + 1) 0 rest
        blockLines folded indent fuel blank ⟨text, [breakText c], l.breaks, l.rest⟩ l.column

/-- Reads a block from behind its indicator. `parent` is the indentation of the collection around
it, below zero at the top. -/
def block (folded : Bool) (parent : Int) (s : List Char) : Option (List Char × List Char) := do
  let (h, s) ← header s
  let limit := h.increment.map fun n => parent.toNat + n
  let l ← lead limit (s.length + 1) 0 s
  let indent := limit.getD (max (max l.widest (parent + 1).toNat) 1)
  let b ← blockLines folded indent (s.length + 1) false ⟨[], [], l.breaks, l.rest⟩ l.column
  let tail := match h.chomping with
    | .strip => []
    | .clip => b.lastBreak
    | .keep => b.lastBreak ++ b.breaks
  return (b.text ++ tail, b.rest)

end Stencil.Yaml
