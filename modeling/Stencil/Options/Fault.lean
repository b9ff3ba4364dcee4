import Stencil.Options.Basic
import Stencil.Options.Value

/-!
# Faults of options

Why a value is no options, by cause, and how each cause is worded.
-/

namespace Stencil.Options

open Stencil.Number Stencil.Token

inductive MarkerFault where
  | invalid (cause : Markers.Invalid)
  /-- A value of this type has no last and first character. -/
  | noSlices (type : String)
  /-- A mapping is asked for a slice, which is no key. -/
  | sliceOfMapping
  /-- The last part of the one and the first part of the other do not go together. -/
  | mixed (left right : String)
  | notText (type : String)
  /-- An entry of a sequence is no text and is not asked whether it is a digit. -/
  | entryNotText
  deriving DecidableEq, Repr

namespace MarkerFault

def message : MarkerFault → String
  | invalid .empty => "Placeholder markers must be non-empty strings"
  | invalid .touchesIndex => "Placeholder markers must not touch the index with digits"
  | noSlices type => "'" ++ type ++ "' object is not subscriptable"
  | sliceOfMapping => "unhashable type: 'slice'"
  | mixed left right =>
    if left = "bytes" then "can't concat " ++ right ++ " to bytes"
    else "can only concatenate " ++ left ++ " (not \"" ++ right ++ "\") to " ++ left
  | notText type => "decoding to str: need a bytes-like object, " ++ type ++ " found"
  | entryNotText => ""

end MarkerFault

inductive OptionFault where
  | notMapping
  | unknownKeys (keys : List String)
  | dialect (given : Value)
  | preamble
  | includePaths
  | includePathsEntry
  | contextFile
  | outputStyle (given : Value)
  | precision
  | sourceComments
  | markers (cause : MarkerFault)
  /-- A value that the wording would show holds a number of too many digits. -/
  | unshowable

namespace OptionFault

def message : OptionFault → String
  | notMapping => "CompileOptions must be a mapping"
  | unknownKeys keys => "CompileOptions: unknown key(s): " ++ ", ".intercalate keys
  | dialect given =>
    "CompileOptions.dialect must be one of 'block'|'indented', got: " ++ given.shown
  | preamble => "CompileOptions.preamble must be a string"
  | includePaths => "CompileOptions.include_paths must be a list of directories"
  | includePathsEntry => "CompileOptions.include_paths must contain only paths"
  | contextFile => "CompileOptions.context_file must be a path or null"
  | outputStyle given =>
    "CompileOptions.output_style must be one of 'expanded'|'nested'|'compact'|'compressed', got: " ++
      given.shown
  | precision => "CompileOptions.precision must be a non-negative integer"
  | sourceComments => "CompileOptions.source_comments must be a boolean"
  | markers cause => "CompileOptions.placeholder: " ++ cause.message
  | unshowable =>
    "Exceeds the limit (" ++ toString longest ++ " digits) for integer string conversion; " ++
      "use sys.set_int_max_str_digits() to increase the limit"

end OptionFault

end Stencil.Options
