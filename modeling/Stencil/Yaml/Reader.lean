import Stencil.Options.File
import Stencil.Yaml.Document

/-!
# The reader of documents

The reader that the program is run with. A document that breaks the rules is malformed; numbers,
dates, truth values and keys that are none raise an exception each.
-/

namespace Stencil.Yaml

open Stencil.Text Stencil.Options

def misreadMessage (m : Misread) : String :=
  match m.base with
  | some base =>
    "invalid literal for int() with base " ++ toString base ++ ": " ++
      String.ofList (quoted m.text)
  | none => "could not convert string to float: " ++ String.ofList (quoted m.text)

def DocumentFault.readFault : DocumentFault → ReadFault
  | malformed => .malformed "not a document"
  | number (.misread cause) => .raised ⟨.value, misreadMessage cause, by decide⟩
  | number (.tooLong cause) => .raised ⟨.value, tooLongMessage cause, by decide⟩
  | date message => .raised ⟨.value, message, by decide⟩
  | truth word => .raised (.ofLibrary (String.ofList (quoted word.toList)))
  | badKey type => .raised ⟨.type, "unhashable type: '" ++ type ++ "'", by decide⟩

def reader : Options.Reader := fun s =>
  (documentValue s).mapError DocumentFault.readFault

end Stencil.Yaml
