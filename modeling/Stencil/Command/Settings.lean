import Stencil.Command.Word
import Stencil.Options.Basic

/-!
# Settings

What the words of a command line ask for. Words are read from left to right: the first plain one is
the source, and later ones mean nothing, like flags that are not known. The flags of one argument are
all read before any of them takes effect. Asking for help or for the version ends the reading at
once, while words that mean nothing are held against the command line only at its end.
-/

namespace Stencil.Command

open Stencil.Text Stencil.Number

structure Settings where
  source : Option (List Char) := none
  config : Option (List Char) := none
  indented : Bool := false
  preamble : Option (List Char) := none
  includePaths : List (List Char) := []
  contextFile : Option (List Char) := none
  outputStyle : Option OutputStyle := none
  precision : Option Int := none
  sourceComments : Bool := false
  surplus : List (List Char) := []
  deriving DecidableEq, Repr

/-- Why the reading of a command line ends early. -/
inductive Stop where
  | help
  | version
  | misuse (cause : Misuse)
  deriving DecidableEq, Repr

namespace Settings

/-- The settings with one more argument that means nothing. -/
def leave (s : Settings) (argument : List Char) : Settings :=
  { s with surplus := s.surplus ++ [argument] }

def readStyle (value : List Char) : Except Misuse OutputStyle :=
  match OutputStyle.ofName? (String.ofList value) with
  | some style => .ok style
  | none => .error (.notChoice .outputStyle value (OutputStyle.all.map OutputStyle.name))

def readPrecision (value : List Char) : Except Misuse Int :=
  (readInteger value).mapError fun _ => .notInteger .precision value

def apply (s : Settings) (f : Flag) (value : List Char) : Except Stop Settings :=
  match f with
  | .help => .error .help
  | .version => .error .version
  | .config => .ok { s with config := some value }
  | .indented => .ok { s with indented := true }
  | .preamble => .ok { s with preamble := some value }
  | .includePath => .ok { s with includePaths := s.includePaths ++ [value] }
  | .contextFile => .ok { s with contextFile := some value }
  | .outputStyle => do
    let style ← (readStyle value).mapError .misuse
    return { s with outputStyle := some style }
  | .precision => do
    let n ← (readPrecision value).mapError .misuse
    return { s with precision := some n }
  | .sourceComments => .ok { s with sourceComments := true }

def applyAll (s : Settings) (flags : List (Flag × List Char)) : Except Stop Settings :=
  flags.foldlM (fun s f => s.apply f.1 f.2) s

end Settings

/-- The flags of one argument. -/
structure Bundle where
  flags : List (Flag × List Char)
  /-- A last one that takes its value from the next argument. -/
  waiting : Option Flag
  /-- A rest that is no flag. -/
  rest : Option (List Char)
  deriving DecidableEq, Repr

namespace Bundle

/-- The flags of an argument that ends with a flag. -/
def last (f : Flag) : Bundle :=
  if f.takesValue then ⟨[], some f, none⟩ else ⟨[(f, [])], none, none⟩

/-- The flags of an argument that begins with a flag without a value. -/
def cons (f : Flag) (b : Bundle) : Bundle :=
  { b with flags := (f, []) :: b.flags }

/-- Reads the flags of an argument from a flag and the text attached to it. A text attached to a
letter that takes no value holds more letters, unless an equals sign stands before it. -/
def read (f : Flag) (short equals : Bool) (text : List Char) : Except Misuse Bundle :=
  if f.takesValue then .ok ⟨[(f, text)], none, none⟩
  else
    match text with
    | [] => .error (.surplusValue f text)
    | c :: more =>
      if !short || equals || c == '-' then .error (.surplusValue f text)
      else
        match Flag.ofLetter? c, more with
        | none, _ => .ok ⟨[(f, [])], none, some ('-' :: text)⟩
        | some g, [] => .ok (cons f (last g))
        | some g, '=' :: value => (read g true true value).map (cons f)
        | some g, d :: value => (read g true false (d :: value)).map (cons f)
termination_by text.length

def ofFlag (f : Flag) (short : Bool) (value : Option Attached) : Except Misuse Bundle :=
  match value with
  | none => .ok (last f)
  | some a => read f short a.equals a.text

end Bundle

namespace Settings

/-- Lets the flags of an argument take effect; `next` is the value from the next argument. -/
def applyBundle (s : Settings) (b : Bundle) (next : List Char) : Except Stop Settings := do
  let s := match b.rest with
    | some rest => s.leave rest
    | none => s
  s.applyAll (b.flags ++ (b.waiting.map fun f => (f, next)).toList)

def readWords (s : Settings) : List Word → Except Stop Settings
  | [] => .ok s
  | .dashes :: .plain text :: words =>
    match s.source with
    | none => readWords { s with source := some text } words
    | some _ => readWords ((s.leave ['-', '-']).leave text) words
  | .dashes :: words =>
    match s.source with
    | none => readWords s words
    | some _ => readWords (s.leave ['-', '-']) words
  | .plain text :: words =>
    match s.source with
    | none =>
      match words with
      | .dashes :: words => readWords { s with source := some text } words
      | words => readWords { s with source := some text } words
    | some _ => readWords (s.leave text) words
  | .unknown text :: words => readWords (s.leave text) words
  | .flag f short value :: words => do
    let b ← (Bundle.ofFlag f short value).mapError .misuse
    match b.waiting, words with
    | none, words => readWords (← s.applyBundle b []) words
    | some _, .plain text :: words => readWords (← s.applyBundle b text) words
    | some g, _ => .error (.misuse (.noValue g))
termination_by words => words.length

def ofArguments (arguments : List (List Char)) : Except Stop Settings := do
  let words ← (Word.ofArguments arguments).mapError .misuse
  let s ← readWords {} words
  if s.surplus.isEmpty then return s else .error (.misuse (.unknown s.surplus))

end Settings

end Stencil.Command
