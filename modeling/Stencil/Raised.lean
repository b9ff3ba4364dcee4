/-!
# Exceptions from outside

The machine and the libraries may fail in ways of their own. Such an exception is known by its
category and its wording, and it is never one of those that stand for a fault of the user.
-/

namespace Stencil

inductive Category where
  | configuration
  | compilation
  | value
  | decoding
  /-- A value has the wrong type where no type was checked. -/
  | type
  /-- A value is asked for something that it has not. -/
  | attribute
  | system
  /-- A library fails in some other way. -/
  | foreign
  deriving DecidableEq, Repr

structure Raised where
  category : Category
  message : String
  outside : category ≠ .configuration ∧ category ≠ .compilation
  deriving DecidableEq, Repr

namespace Raised

def ofSystem (message : String) : Raised :=
  ⟨.system, message, by decide⟩

def ofLibrary (message : String) : Raised :=
  ⟨.foreign, message, by decide⟩

end Raised

end Stencil
