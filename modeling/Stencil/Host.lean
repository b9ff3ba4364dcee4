import Stencil.Fault
import Stencil.Files.Tree
import Stencil.Text.Lines

/-!
# Hosts

What a run can see of the machine that it runs on. Whatever it asks for, the machine may raise an
exception instead. Texts are read from bytes, with every line break made a line feed.
-/

namespace Stencil

open Stencil.Text Stencil.Files

structure Host where
  isFile : Path → Except Raised Bool
  bytes : Path → Except Raised (List UInt8)
  /-- Where a path leads from the current directory, behind all links and double dots. -/
  resolve : Path → Except Raised AbsolutePath
  input : Except Raised (List UInt8)
  reports : Bool
  installed? : String → Option String

namespace Host

def textOf (bytes : List UInt8) : Except Fault (List Char) :=
  (decodeUtf8 bytes).map normalizeBreaks |>.mapError .undecodable

/-- The text of the file of a path; `missing` is the fault if there is none. -/
def text (h : Host) (p : Path) (missing : Fault) : Except Fault (List Char) := do
  if ← (h.isFile p).mapError .raised then
    let bytes ← (h.bytes p).mapError .raised
    textOf bytes
  else .error missing

/-- The directory that a path leads into. -/
def directory (h : Host) (p : Path) : Except Fault Path := do
  let file ← (h.resolve p).mapError .raised
  return file.val.parent

def inputText (h : Host) : Except Fault (List Char) := do
  let bytes ← h.input.mapError .raised
  textOf bytes

/-- A host with its files in memory, which refuses nothing. -/
def ofTree (t : Tree) (input : List UInt8) : Host where
  isFile p := .ok (t.file? p).isSome
  bytes p := .ok ((t.file? p).getD [])
  resolve p := .ok (t.resolve p)
  input := .ok input
  reports := false
  installed? _ := none

/-- The names under which this program is distributed, first the one that counts most. -/
def distributions : List String :=
  ["styled-jsx-sass", "sjx_sass"]

def version (h : Host) : String :=
  (distributions.findSome? h.installed?).getD "0.0.0"

end Host

end Stencil
