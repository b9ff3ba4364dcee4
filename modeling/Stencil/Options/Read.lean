import Stencil.Options.Fault
import Stencil.Text.Blank

/-!
# Reading options

A value is read as options key by key, in a fixed order, and the first fault ends the reading. A
value that counts as not given stands for the default options, whatever its type. A fault that shows
the value gives way to one of its own if a number in the value has too many digits to be shown.
-/

namespace Stencil.Options

open Stencil.Text Stencil.Token Stencil.Files

def knownKeys : List String :=
  ["dialect", "preamble", "include_paths", "context_file", "output_style", "precision",
    "source_comments", "placeholder_open", "placeholder_close"]

def isKnown (key : Value) : Bool :=
  knownKeys.any fun k => key.same (.text k)

/-- The keys of a mapping that are no options. -/
def unknownKeys (entries : List (Value × Value)) : List Value :=
  (entries.map Prod.fst).filter fun key => !isKnown key

def sortedTexts (keys : List Value) : List String :=
  (keys.map fun key => String.ofList key.plain).mergeSort fun a b => !(b < a)

def checkKeys (entries : List (Value × Value)) : Except OptionFault Unit :=
  let unknown := unknownKeys entries
  if unknown.isEmpty then .ok ()
  else if unknown.all Value.isShowable then .error (.unknownKeys (sortedTexts unknown))
  else .error .unshowable

/-- The fault of a value that is shown in its wording. -/
def refused (fault : Value → OptionFault) (v : Value) : OptionFault :=
  if v.isShowable then fault v else .unshowable

/-- Lower case, as far as it yields plain letters. Outside the plain alphabet the Kelvin sign is the
only character whose lower case is a single plain letter. -/
def lowerPlain (c : Char) : Char :=
  if c == '\u212a' then 'k' else c.toLower

/-- Reads a dialect from its name in any case, with blanks around it. -/
def readDialect (v : Value) : Except OptionFault Dialect :=
  match v with
  | .dialect d => .ok d
  | v =>
    let name := (strip v.plain).map lowerPlain
    if name == Dialect.block.name.toList then .ok .block
    else if name == Dialect.indented.name.toList then .ok .indented
    else .error (refused .dialect v)

def readPreamble : Value → Except OptionFault String
  | .null => .ok ""
  | .text s => .ok s
  | _ => .error .preamble

def pathText? : Value → Option String
  | .text s => some s
  | .path p => some p.string
  | _ => none

def readPaths (items : List Value) : Except OptionFault (List String) :=
  match items.mapM pathText? with
  | some paths => .ok paths
  | none => .error .includePathsEntry

def readIncludePaths (v : Value) : Except OptionFault (List String) :=
  if v.isGiven then
    match v with
    | .list items => readPaths items
    | .tuple items => readPaths items
    | _ => .error .includePaths
  else .ok []

def readContextFile (v : Value) : Except OptionFault (Option String) :=
  match v with
  | .null => .ok none
  | v =>
    match pathText? v with
    | some s => .ok (some s)
    | none => .error .contextFile

def readOutputStyle (v : Value) : Except OptionFault OutputStyle :=
  match v with
  | .text s =>
    match OutputStyle.ofName? s with
    | some style => .ok style
    | none => .error (.outputStyle v)
  | v => .error (refused .outputStyle v)

def readPrecision : Value → Except OptionFault (Option Int)
  | .null => .ok none
  | .integer n => if n < 0 then .error .precision else .ok (some n)
  | _ => .error .precision

def readSourceComments : Value → Except OptionFault Bool
  | .truth b => .ok b
  | _ => .error .sourceComments

/-- What touches the index on one side. -/
inductive Slice where
  | text (s : List Char)
  | sequence (type : String) (items : List Value)

namespace Slice

def typeName : Slice → String
  | text _ => "str"
  | sequence type _ => type

/-- The part of a value that touches the index; `edge` takes it from a sequence. -/
def ofValue (edge : {α : Type} → List α → Option α) (v : Value) : Except MarkerFault Slice :=
  match v with
  | .text s => .ok (.text (edge s.toList).toList)
  | .bytes items => .ok (.sequence "bytes" (edge (items.map Value.ofByte)).toList)
  | .list items => .ok (.sequence "list" (edge items).toList)
  | .tuple items => .ok (.sequence "tuple" (edge items).toList)
  | .mapping _ => .error .sliceOfMapping
  | v => .error (.noSlices v.typeName)

end Slice

def allDigits (s : String) : Bool :=
  !s.isEmpty && s.toList.all isDigit

/-- The fault of markers that are sequences of values: an entry that touches the index is a number,
or is no text, or else the markers themselves are no texts. -/
def sequenceFault (type : String) : List Value → MarkerFault
  | [] => .notText type
  | .text s :: items => if allDigits s then .invalid .touchesIndex else sequenceFault type items
  | _ :: _ => .entryNotText

def readMarkers (opening closing : Value) : Except MarkerFault Markers := do
  if !opening.isGiven || !closing.isGiven then .error (.invalid .empty)
  let left ← Slice.ofValue List.getLast? opening
  let right ← Slice.ofValue List.head? closing
  match opening, closing, left, right with
  | .text o, .text c, _, _ => (Markers.ofTexts o.toList c.toList).mapError .invalid
  | _, _, .sequence type items, .sequence type' items' =>
    if type = type' then .error (sequenceFault type (items ++ items'))
    else .error (.mixed type type')
  | _, _, left, right => .error (.mixed left.typeName right.typeName)

/-- Reads the markers of a mapping; the standard ones stand in for those that are missing. -/
def readMarkersOf (entries : List (Value × Value)) : Except OptionFault Markers :=
  let opening := Value.find? entries "placeholder_open"
  let closing := Value.find? entries "placeholder_close"
  if opening.isNone && closing.isNone then .ok .standard
  else
    let standard (s : List Char) : Value := .text (String.ofList s)
    (readMarkers (opening.getD (standard Markers.standard.opening))
      (closing.getD (standard Markers.standard.closing))).mapError .markers

def readKey {α : Type} (entries : List (Value × Value)) (key : String) (missing : α)
    (read : Value → Except OptionFault α) : Except OptionFault α :=
  match Value.find? entries key with
  | some v => read v
  | none => .ok missing

def readEntries (entries : List (Value × Value)) : Except OptionFault Options := do
  checkKeys entries
  let dialect ← readKey entries "dialect" .block readDialect
  let preamble ← readKey entries "preamble" "" readPreamble
  let includePaths ← readKey entries "include_paths" [] readIncludePaths
  let contextFile ← readKey entries "context_file" none readContextFile
  let outputStyle ← readKey entries "output_style" .expanded readOutputStyle
  let precision ← readKey entries "precision" none readPrecision
  let sourceComments ← readKey entries "source_comments" false readSourceComments
  let markers ← readMarkersOf entries
  return { dialect, preamble, includePaths, contextFile, outputStyle, precision, sourceComments,
           markers }

def ofValue (v : Value) : Except OptionFault Options :=
  if v.isGiven then
    match v with
    | .mapping entries => readEntries entries
    | _ => .error .notMapping
  else .ok {}

end Stencil.Options
