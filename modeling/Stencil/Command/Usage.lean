import Stencil.Command.Flag
import Stencil.Options.Basic
import Stencil.Text.Blank

/-!
# Usage

What the program says about its command line: the usage, the help, its version, and the usage with
the reason why a command line is refused.
-/

namespace Stencil.Command

open Stencil.Text

def programName : String := "sjx-sass"

/-- Lines, each ended by a line feed. -/
def lines (texts : List String) : String :=
  String.join (texts.map fun t => t ++ "\n")

def styleChoices : String :=
  "\x7b" ++ ",".intercalate (OutputStyle.all.map OutputStyle.name) ++ "\x7d"

def usage : String :=
  lines
    ["usage: sjx-sass [-h] [-v] [--config FILE] [--indented] [--preamble TEXT|@FILE]",
      "                [-I DIR] [--context-file PATH]",
      "                [--output-style " ++ styleChoices ++ "]",
      "                [--precision N] [--source-comments]",
      "                [source]"]

def help : String :=
  usage ++ lines
    ["",
      "Compile a SCSS/Sass fragment to CSS, preserving styled-jsx placeholders",
      "",
      "positional arguments:",
      "  source                файл с исходником или - для чтения из stdin (по",
      "                        умолчанию)",
      "",
      "options:",
      "  -h, --help            show this help message and exit",
      "  -v, --version         show program's version number and exit",
      "  --config FILE         YAML-файл с опциями компиляции; флаги командной строки",
      "                        имеют приоритет",
      "  --indented            исходник в indented-синтаксисе (Sass)",
      "  --preamble TEXT|@FILE",
      "                        текст, добавляемый перед исходником: прямая строка или",
      "                        @file",
      "  -I DIR, --include-path DIR",
      "                        каталог для резолвинга импортов (можно указать",
      "                        несколько)",
      "  --context-file PATH   файл, относительно которого резолвятся относительные",
      "                        импорты",
      "  --output-style " ++ styleChoices,
      "  --precision N",
      "  --source-comments"]

/-- A text with single spaces between its words and none around them. -/
def singleSpaced (s : List Char) : List Char :=
  let isSpace (c : Char) : Bool := c.toNat < 0x80 && isSpacing c
  let runs := s.splitBy fun c d => isSpace c == isSpace d
  strip (runs.flatMap fun run => if run.any isSpace then [' '] else run)

def versionLine (version : String) : String :=
  String.ofList (singleSpaced (programName ++ " " ++ version).toList) ++ "\n"

def refusal (cause : Misuse) : String :=
  usage ++ programName ++ ": error: " ++ cause.message ++ "\n"

end Stencil.Command
