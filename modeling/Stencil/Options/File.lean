import Stencil.Host
import Stencil.Options.Read

/-!
# Options files

Options are read from a file that holds a mapping. What such a file says about paths is seen from
its own directory and not from the current one. The reader of documents is a parameter: it finds the
value of a text, it says why the text is no document, or it fails in a way of its own.
-/

namespace Stencil.Options

open Stencil.Files

/-- Why no value of a document is found. -/
inductive ReadFault where
  | malformed (message : String)
  | raised (cause : Raised)

abbrev Reader := List Char → Except ReadFault Value

def ReadFault.fault (path : Path) : ReadFault → Fault
  | malformed message => .badDocument path.string message
  | raised cause => .raised cause

/-- The entries of the value of an options file. A value that counts as not given has none. -/
def fileEntries (path : Path) (v : Value) : Except Fault (List (Value × Value)) :=
  if v.isGiven then
    match v with
    | .mapping entries => .ok entries
    | _ => .error (.notMapping path.string)
  else .ok []

/-- The options with their paths seen from a directory. -/
def seenFrom (base : Path) (o : Options) : Options :=
  let see (s : String) : String := (base.join (Path.ofString s)).string
  { o with includePaths := o.includePaths.map see, contextFile := o.contextFile.map see }

def ofFileValue (h : Host) (path : Path) (v : Value) : Except Fault Options := do
  let entries ← fileEntries path v
  let options ← (ofValue (.mapping entries)).mapError .options
  let base ← h.directory path
  return seenFrom base options

def fileValue (read : Reader) (h : Host) (path : Path) : Except Fault Value := do
  let text ← h.text path (.noDocument path.string)
  (read text).mapError (ReadFault.fault path)

def ofFile (read : Reader) (h : Host) (path : Path) : Except Fault Options := do
  let value ← fileValue read h path
  ofFileValue h path value

end Stencil.Options
