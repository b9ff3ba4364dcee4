import Stencil.Dialect
import Stencil.Token.Markers

/-!
# Options

What one run is asked to do. The dialect, the preamble and the context file are settled before the
compiler is called; the output style, the precision and the source comments are the compiler's.
-/

namespace Stencil

open Stencil.Token

inductive OutputStyle where
  | expanded
  | nested
  | compact
  | compressed
  deriving DecidableEq, Repr

namespace OutputStyle

def all : List OutputStyle :=
  [expanded, nested, compact, compressed]

def name : OutputStyle → String
  | expanded => "expanded"
  | nested => "nested"
  | compact => "compact"
  | compressed => "compressed"

def ofName? (s : String) : Option OutputStyle :=
  all.find? fun style => style.name == s

theorem ofName?_name (style : OutputStyle) : ofName? style.name = some style := by
  cases style <;> decide +kernel

end OutputStyle

structure Options where
  dialect : Dialect := .block
  preamble : String := ""
  includePaths : List String := []
  contextFile : Option String := none
  outputStyle : OutputStyle := .expanded
  /-- The digits behind the point; the compiler's own choice if none is given. -/
  precision : Option Int := none
  sourceComments : Bool := false
  markers : Markers := .standard

instance : Inhabited Options := ⟨{}⟩

end Stencil
