import Stencil.Adjacency.Rule
import Stencil.Fault
import Stencil.Options.Basic

/-!
# Events

What happens during a run, in order. Calls of the compiler are events too, so a run tells how often
and with what the compiler was called. Some events are reported, each by the part of the program in
which it happens.
-/

namespace Stencil.Compile

open Stencil.Text Stencil.Number Stencil.Options Stencil.Adjacency

structure Request where
  source : List Char
  dialect : Dialect
  includePaths : List String
  options : Options

structure Invocation where
  source : List Char
  indented : Bool
  includePaths : List String
  outputStyle : OutputStyle
  sourceComments : Bool
  precision : Option Int
  deriving DecidableEq, Repr

def Request.invocation (r : Request) : Invocation where
  source := r.source
  indented := r.dialect == .indented
  includePaths := r.includePaths
  outputStyle := r.options.outputStyle
  sourceComments := r.options.sourceComments
  precision := r.options.precision

inductive Event where
  | staged (length : Nat) (dialect : Dialect) (includePaths : List String)
  | requested (request : Request)
  | compiling (version : String) (length : Nat)
  | invoked (invocation : Invocation)
  | returned (length : Nat)
  | restored (hits : List Rule)

/-- A reported event: the part of the program that reports, and the wording. -/
structure Report where
  channel : String
  message : String
  deriving DecidableEq, Repr

namespace Event

/-- How often each rule applied, in the order of first application. -/
def tally (hits : List Rule) : List (Rule × Nat) :=
  hits.eraseDups.map fun r => (r, hits.count r)

def tallyText (hits : List Rule) : List Char :=
  let entry (p : Rule × Nat) := quoted p.1.name.toList ++ [':', ' '] ++ numeral p.2
  '{' :: Value.commas ((tally hits).map entry) ++ ['}']

def pathsText (paths : List String) : List Char :=
  '[' :: Value.commas (paths.map fun p => quoted p.toList) ++ [']']

def report? : Event → Option Report
  | staged length dialect paths =>
    some ⟨"sjx_sass.stager", "Staged " ++ toString length ++ " chars, dialect=" ++ dialect.name ++
      ", include_paths=" ++ String.ofList (pathsText paths)⟩
  | requested _ => none
  | compiling version length =>
    some ⟨"sjx_sass.compiler",
      "libsass " ++ version ++ ": compiling " ++ toString length ++ " chars"⟩
  | invoked _ => none
  | returned length =>
    some ⟨"sjx_sass.pipeline", "Compiler returned " ++ toString length ++ " chars"⟩
  | restored hits =>
    some ⟨"sjx_sass.restore.restorer", "Restored " ++ toString hits.length ++ " placeholder(s): " ++
      String.ofList (tallyText hits)⟩

def request? : Event → Option Request
  | requested r => some r
  | _ => none

def invocation? : Event → Option Invocation
  | invoked i => some i
  | _ => none

end Event

end Stencil.Compile
