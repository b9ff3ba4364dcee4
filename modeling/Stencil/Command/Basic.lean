import Stencil.Command.Settings
import Stencil.Command.Usage
import Stencil.Compile.Basic
import Stencil.Options.File

/-!
# The command

One run of the program, from its arguments to what it prints and how it exits. Options come from the
options file, and the command line overrides them. A source that is a file stands in for a context
file if none is given. A fault of the options, of the source or of a value is told in words, and the
program exits with two; any other fault ends the program as it is. The reader of documents and the
external compiler are parameters, and so is the machine.
-/

namespace Stencil.Command

open Stencil.Text Stencil.Files Stencil.Options Stencil.Compile

structure Outcome where
  /-- The exit code, or the fault that the program does not put into words. -/
  exit : Except Fault Nat
  output : String
  errors : String
  invocations : List Invocation

namespace Settings

variable (s : Settings)

def pathOf (text : List Char) : Path :=
  Path.ofText text

/-- The value of a flag for which an empty text is none. -/
def given (value : Option (List Char)) : Option (List Char) :=
  value.filter fun text => !text.isEmpty

def standardInput : List Char := ['-']

def sourceFile? : Option Path :=
  (s.source.filter (· != standardInput)).map pathOf

def configFile? : Option Path :=
  (given s.config).map pathOf

/-- The file that a preamble names behind an at sign. -/
def preambleFile? : Option Path :=
  s.preamble.bind fun text => (after? ['@'] text).map pathOf

def files : List Path :=
  s.configFile?.toList ++ s.preambleFile?.toList ++ s.sourceFile?.toList

/-- The options before any setting counts: those of the options file, or the default ones. -/
def loaded (read : Reader) (h : Host) : Except Fault Options :=
  match s.configFile? with
  | some file => ofFile read h file
  | none => .ok {}

def preambleText (h : Host) : Except Fault (Option String) :=
  match s.preambleFile? with
  | some file => do
    let text ← h.text file (.noFile .preamble file.string)
    return some (String.ofList text)
  | none => .ok (s.preamble.map String.ofList)

/-- The source as a file that relative imports start from. -/
def sourceContext (h : Host) : Except Fault (Option String) :=
  match s.sourceFile? with
  | some file => do
    let file ← (h.resolve file).mapError .raised
    return some file.val.string
  | none => .ok none

/-- The context file: the one given, or the one of the options, or the source. -/
def contextPath (h : Host) (o : Options) : Except Fault (Option String) :=
  match given s.contextFile, o.contextFile with
  | some text, _ => .ok (some (String.ofList text))
  | none, some file => .ok (some file)
  | none, none => s.sourceContext h

/-- The options under the settings, the preamble that these name, and the context file. -/
def merge (o : Options) (preamble contextFile : Option String) : Options :=
  { o with
    dialect := if s.indented then .indented else o.dialect
    preamble := preamble.getD o.preamble
    includePaths := o.includePaths ++ s.includePaths.map String.ofList
    contextFile := contextFile
    outputStyle := s.outputStyle.getD o.outputStyle
    precision := s.precision <|> o.precision
    sourceComments := s.sourceComments || o.sourceComments }

def options (read : Reader) (h : Host) : Except Fault Options := do
  let o ← s.loaded read h
  let preamble ← s.preambleText h
  let contextFile ← s.contextPath h o
  return s.merge o preamble contextFile

def sourceText (h : Host) : Except Fault (List Char) :=
  match s.sourceFile? with
  | some file => h.text file (.noFile .source file.string)
  | none => h.inputText

def compile (read : Reader) (external : External) (h : Host) : Run (List Char) := do
  let o ← Run.ofExcept (s.options read h)
  let source ← Run.ofExcept (s.sourceText h)
  Compile.compile external.compiler source o

end Settings

def reportLine (r : Report) : String :=
  "[DEBUG] " ++ r.message ++ "\n"

/-- A text without blanks at its end. -/
def trimmed (s : String) : String :=
  String.ofList (stripRight s.toList)

/-- What is said about a fault, if it is put into words. -/
def faultText? (f : Fault) : Option String :=
  match f.category with
  | .compilation =>
    let place := match f.position.words? with
      | some words => " (" ++ words ++ ")"
      | none => ""
    some ("Compilation failed" ++ place ++ ":\n" ++ trimmed f.message ++ "\n")
  | .configuration => some (trimmed f.message ++ "\n")
  | .value => some (trimmed f.message ++ "\n")
  | .decoding => some (trimmed f.message ++ "\n")
  | .type => none
  | .attribute => none
  | .system => none
  | .foreign => none

/-- The exit code for a fault that is put into words. -/
def failure : Nat := 2

def Outcome.ofRun (h : Host) (run : Run (List Char)) : Outcome :=
  let reports := if h.reports then String.join (run.reports.map reportLine) else ""
  match run.result with
  | .ok css => ⟨.ok 0, String.ofList css ++ "\n", reports, run.invocations⟩
  | .error f =>
    match faultText? f with
    | some text => ⟨.ok failure, "", reports ++ text, run.invocations⟩
    | none => ⟨.error f, "", reports, run.invocations⟩

def Outcome.ofStop (h : Host) : Stop → Outcome
  | .help => ⟨.ok 0, help, "", []⟩
  | .version => ⟨.ok 0, versionLine h.version, "", []⟩
  | .misuse cause => ⟨.ok failure, "", refusal cause, []⟩

def run (read : Reader) (external : External) (h : Host) (arguments : List String) : Outcome :=
  match Settings.ofArguments (arguments.map String.toList) with
  | .error stop => .ofStop h stop
  | .ok s => .ofRun h (s.compile read external h)

end Stencil.Command
