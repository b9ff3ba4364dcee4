/-!
# Dialects

The two surface forms of a style source: statements ended by semicolons and grouped by braces, or
statements ended by their line and grouped by indentation.
-/

namespace Stencil

inductive Dialect where
  | block
  | indented
  deriving DecidableEq, Repr, Inhabited

namespace Dialect

def name : Dialect → String
  | block => "block"
  | indented => "indented"

def capitals : Dialect → String
  | block => "BLOCK"
  | indented => "INDENTED"

end Dialect

end Stencil
