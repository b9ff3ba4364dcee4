import Stencil.Compile.Position
import Stencil.Options.Entries
import Stencil.Options.Fault
import Stencil.Raised
import Stencil.Source.Indent
import Stencil.Source.Use
import Stencil.Text.Utf8

/-!
# Faults

Everything that can end a run early, by cause. A fault has a category, which says whose fault it is
and how it is reported, and a wording. Exceptions from outside keep their own.
-/

namespace Stencil

open Stencil.Text Stencil.Number Stencil.Token Stencil.Options Stencil.Source Stencil.Compile

structure Rejection where
  message : List Char
  position : Position
  deriving DecidableEq, Repr

inductive Role where
  | source
  | preamble
  deriving DecidableEq, Repr

inductive Fault where
  | options (cause : OptionFault)
  | entries (cause : EntriesFault)
  | misindented (cause : Misindented)
  /-- The source holds a name that stands for a token while the source is compiled. -/
  | reserved (name : List Char)
  | unsupportedUse (cause : UnsupportedUse)
  | rejected (cause : Rejection)
  | tooLong (cause : TooLong)
  | undecodable (cause : Undecodable)
  | noDocument (path : String)
  /-- The options file of this path is no document, as the reader of documents words it. -/
  | badDocument (path message : String)
  | notMapping (path : String)
  | noFile (role : Role) (path : String)
  | raised (cause : Raised)

def undecodableMessage (u : Undecodable) : String :=
  let place :=
    if u.length = 1 then
      "byte 0x" ++ String.ofList (hexadecimal 2 u.byte.toNat) ++ " in position " ++
        toString u.position
    else "bytes in position " ++ toString u.position ++ "-" ++ toString (u.position + u.length - 1)
  let reason :=
    match u.fault with
    | .start => "invalid start byte"
    | .continuation => "invalid continuation byte"
    | .truncated => "unexpected end of data"
  "'utf-8' codec can't decode " ++ place ++ ": " ++ reason

def tooLongMessage (t : TooLong) : String :=
  "Exceeds the limit (" ++ toString longest ++ " digits) for integer string conversion: value has " ++
    toString t.digits ++ " digits; use sys.set_int_max_str_digits() to increase the limit"

def negativeMessage (n : Markers.Negative) : String :=
  "Placeholder index must be non-negative, got " ++ toString n.index

def noIndexMessage : Markers.NoIndex → String
  | .notToken s => "Not a placeholder token: " ++ String.ofList (quoted s)
  | .tooLong cause => tooLongMessage cause

def Role.message (path : String) : Role → String
  | source => "Source file not found: " ++ path
  | preamble => "Preamble file not found: " ++ path

namespace Fault

def category : Fault → Category
  | options (.markers .entryNotText) => .attribute
  | options .unshowable => .value
  | options _ => .configuration
  | entries (.noPair _ _) => .value
  | entries _ => .type
  | misindented _ => .configuration
  | reserved _ => .configuration
  | unsupportedUse _ => .compilation
  | rejected _ => .compilation
  | tooLong _ => .value
  | undecodable _ => .decoding
  | noDocument _ => .configuration
  | badDocument _ _ => .configuration
  | notMapping _ => .configuration
  | noFile _ _ => .value
  | raised cause => cause.category

def message : Fault → String
  | options cause => cause.message
  | entries cause => cause.message
  | misindented cause =>
    "Inconsistent indentation at line " ++ toString cause.line ++ ": expected at least " ++
      toString cause.width ++
      " leading whitespace character(s) matching the first non-blank line"
  | reserved name =>
    "Source contains the reserved identifier " ++ String.ofList (quoted name) ++
      "; names of the form __sjx_<kind>_<N>__ stand in for placeholders during compilation"
  | unsupportedUse cause =>
    "Unsupported @use rule: " ++ String.ofList (quoted cause.rule) ++
      "; only '@use \"url\";' and '@use \"url\" as *;' can be compiled with libsass"
  | rejected cause => String.ofList cause.message
  | tooLong cause => tooLongMessage cause
  | undecodable cause => undecodableMessage cause
  | noDocument path => "Options file not found: " ++ path
  | badDocument path message => "Invalid YAML in " ++ path ++ ": " ++ message
  | notMapping path => "YAML must be a mapping: " ++ path
  | noFile role path => role.message path
  | raised cause => cause.message

/-- Where in the source the fault lies, as far as that is known. -/
def position : Fault → Position
  | unsupportedUse cause => ⟨some cause.line, none⟩
  | rejected cause => cause.position
  | _ => .unknown

end Fault

end Stencil
