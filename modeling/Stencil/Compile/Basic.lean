import Stencil.Adjacency.Restore
import Stencil.Compile.Run
import Stencil.Options.Entries
import Stencil.Options.Read
import Stencil.Source.Stage

/-!
# Compiling a fragment

A fragment is staged, compiled, restored and rid of its outer blanks. The compiler is a parameter:
it answers a request with a style sheet or ends the run with a fault. The external compiler is one
such compiler; its refusals are messages, in which the position is looked up.
-/

namespace Stencil.Compile

open Stencil.Text Stencil.Options Stencil.Source Stencil.Adjacency

abbrev Compiler := Request → Run (List Char)

/-- The external compiler. It answers a call with a style sheet or with a message. -/
structure External where
  version : String
  answer : Invocation → Except (List Char) (List Char)

/-- The fault for a message of the external compiler. -/
def faultOfMessage (message : List Char) : Fault :=
  let message := strip message
  match Position.ofMessage message with
  | .ok position => .rejected ⟨message, position⟩
  | .error cause => .tooLong cause

def External.compiler (external : External) : Compiler := fun request => do
  let invocation := request.invocation
  Run.note (.compiling external.version request.source.length)
  Run.note (.invoked invocation)
  Run.ofExcept ((external.answer invocation).mapError faultOfMessage)

/-- The compiler that carries every source over unchanged. -/
def carryOver : External where
  version := "none"
  answer invocation := .ok invocation.source

/-- Restores a compiled style sheet and says which rules applied, if any did. -/
def restored (o : Options) (css : List Char) : Run (List Char) := do
  let r ← Run.ofExcept ((restore o.markers css).mapError .tooLong)
  if !r.hits.isEmpty then Run.note (.restored r.hits)
  return r.text o.markers

def compile (compiler : Compiler) (source : List Char) (o : Options) : Run (List Char) := do
  let staged ← Run.ofExcept (stage source o)
  Run.note (.staged staged.text.length staged.dialect staged.includePaths)
  let request : Request := ⟨staged.text, staged.dialect, staged.includePaths, o⟩
  Run.note (.requested request)
  let css ← compiler request
  Run.note (.returned css.length)
  let css ← restored o css
  return finish css

def optionsOf (given : Value) : Except Fault Options :=
  match given with
  | .null => (ofValue .null).mapError .options
  | given => do
    let entries ← given.entries.mapError .entries
    (ofValue (.mapping entries)).mapError .options

def compileWith (compiler : Compiler) (source : List Char) (given : Value) : Run (List Char) := do
  let o ← Run.ofExcept (optionsOf given)
  compile compiler source o

end Stencil.Compile
