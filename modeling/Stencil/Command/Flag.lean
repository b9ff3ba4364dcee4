import Stencil.Number.Decimal
import Stencil.Text.Cursor
import Stencil.Text.Quoted

/-!
# Flags

The flags of the command line. A flag has one long name and perhaps a short one; a long name may be
cut short as long as it fits one flag only. Names include their dashes.
-/

namespace Stencil.Command

open Stencil.Text

inductive Flag where
  | help
  | version
  | config
  | indented
  | preamble
  | includePath
  | contextFile
  | outputStyle
  | precision
  | sourceComments
  deriving DecidableEq, Repr

namespace Flag

def all : List Flag :=
  [help, version, config, indented, preamble, includePath, contextFile, outputStyle, precision,
    sourceComments]

def letter? : Flag → Option Char
  | help => some 'h'
  | version => some 'v'
  | includePath => some 'I'
  | _ => none

def longName : Flag → String
  | help => "--help"
  | version => "--version"
  | config => "--config"
  | indented => "--indented"
  | preamble => "--preamble"
  | includePath => "--include-path"
  | contextFile => "--context-file"
  | outputStyle => "--output-style"
  | precision => "--precision"
  | sourceComments => "--source-comments"

def takesValue : Flag → Bool
  | help => false
  | version => false
  | indented => false
  | sourceComments => false
  | _ => true

/-- The names of a flag as messages give them. -/
def title (f : Flag) : String :=
  match f.letter? with
  | some c => "-" ++ String.singleton c ++ "/" ++ f.longName
  | none => f.longName

def ofLetter? (c : Char) : Option Flag :=
  all.find? fun f => f.letter? == some c

def ofLongName? (name : List Char) : Option Flag :=
  all.find? fun f => f.longName.toList == name

/-- The flags whose long names begin with a text. -/
def beginningWith (front : List Char) : List Flag :=
  all.filter fun f => startsWith front f.longName.toList

end Flag

/-- Why a command line is refused. -/
inductive Misuse where
  | ambiguous (given : List Char) (flags : List Flag)
  | noValue (flag : Flag)
  | surplusValue (flag : Flag) (value : List Char)
  | notInteger (flag : Flag) (value : List Char)
  | notChoice (flag : Flag) (value : List Char) (choices : List String)
  | unknown (arguments : List (List Char))
  deriving DecidableEq, Repr

namespace Misuse

def about (f : Flag) (message : String) : String :=
  "argument " ++ f.title ++ ": " ++ message

def message : Misuse → String
  | ambiguous given flags =>
    "ambiguous option: " ++ String.ofList given ++ " could match " ++
      ", ".intercalate (flags.map Flag.longName)
  | noValue f => about f "expected one argument"
  | surplusValue f value => about f ("ignored explicit argument " ++ String.ofList (quoted value))
  | notInteger f value => about f ("invalid int value: " ++ String.ofList (quoted value))
  | notChoice f value choices =>
    about f ("invalid choice: " ++ String.ofList (quoted value) ++ " (choose from " ++
      ", ".intercalate (choices.map quotedString) ++ ")")
  | unknown arguments =>
    "unrecognized arguments: " ++ " ".intercalate (arguments.map String.ofList)

end Misuse

end Stencil.Command
