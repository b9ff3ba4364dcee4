import Stencil.Fault
import Stencil.Files.Path
import Stencil.Options.Basic
import Stencil.Shield.Basic
import Stencil.Source.Indent
import Stencil.Source.Use

/-!
# Staging

What is done to a source before the compiler sees it: its common indentation is removed if the
dialect has one, the preamble is put in front, use rules become imports, and tokens are shielded.
A source that holds a reserved name is refused, because after compilation the name could not be
told from a shielded token.
-/

namespace Stencil.Source

open Stencil.Text Stencil.Files Stencil.Options Stencil.Shield

structure Staged where
  text : List Char
  dialect : Dialect
  includePaths : List String
  deriving DecidableEq, Repr

/-- The directory of the context file; an empty name names no file. -/
def contextDirectory (o : Options) : List String :=
  match o.contextFile with
  | none => []
  | some file => if file.isEmpty then [] else [(Path.ofString file).parent.string]

/-- The directories in which imports are looked for, in order and without repetition. -/
def includePaths (o : Options) : List String :=
  (contextDirectory o ++ o.includePaths).eraseDups

/-- The source with the preamble on lines of its own in front. -/
def withPreamble (o : Options) (source : List Char) : List Char :=
  if o.preamble.isEmpty then source else o.preamble.toList ++ '\n' :: source

/-- The source without its common indentation, if its dialect has one. -/
def unindented (o : Options) (source : List Char) : Except Fault (List Char) :=
  match o.dialect with
  | .block => .ok source
  | .indented => (stripIndent source).mapError .misindented

/-- The text before its tokens are shielded. -/
def assembled (o : Options) (source : List Char) : Except Fault (List Char) := do
  return withPreamble o (← unindented o source)

def checkReserved (s : List Char) : Except Fault Unit :=
  match reserved? s with
  | some name => .error (.reserved name)
  | none => .ok ()

def stage (source : List Char) (o : Options) : Except Fault Staged := do
  let text ← assembled o source
  checkReserved text
  let text ← (rewriteUse text).mapError .unsupportedUse
  let text ← (shield o.markers o.dialect text).mapError .tooLong
  return ⟨text, o.dialect, includePaths o⟩

end Stencil.Source
