import Stencil.Command.Basic
import Stencil.Yaml.Reader

/-!
# The program

Reads what the arguments name, runs the command and prints what it leaves behind. The compiler
carries every source over as it stands.
-/

namespace Stencil.Command

open Stencil.Files

/-- All bytes that a stream still holds, behind those read before. -/
partial def readAll (stream : IO.FS.Stream) (before : ByteArray) : IO ByteArray := do
  let bytes ← stream.read 65536
  if bytes.isEmpty then return before else readAll stream (before ++ bytes)

/-- What the machine says about a path: what is in its file, if there is one, and where it leads. -/
structure Found where
  contents : Except Raised (Option (List UInt8))
  place : Except Raised AbsolutePath

def systemError (e : IO.Error) : Raised :=
  .ofSystem (toString e)

def circularLinks : Raised :=
  .ofLibrary "Symlink loop"

/-- Whether an error is that links lead in a circle, which has the code minus forty. -/
def isCircular : IO.Error → Bool
  | .invalidArgument _ code _ => code == 0xffffffff - 39
  | _ => false

/-- Follows parts from a directory. A part that leads nowhere stands for itself. -/
def follow (dir : Path) : List (List Char) → IO Path
  | [] => return dir
  | part :: parts => do
    if part == ['.', '.'] then follow dir.parent parts
    else
      let next := dir.join (Path.ofText part)
      let next ← try pure (Path.ofString (← IO.FS.realPath next.string).toString)
        catch _ => pure next
      follow next parts

def resolvePath (current p : Path) : IO (Except Raised AbsolutePath) := do
  let place ← follow (Path.ofString "/") (current.join p).parts
  if h : place.isAbsolute = true then return .ok ⟨place, h⟩
  else return .error circularLinks

/-- Looks for the file of a path. A directory is none, and neither is what links in a circle. -/
def findPath (current p : Path) : IO Found := do
  let place ← resolvePath current p
  try
    let bytes ← IO.FS.readBinFile p.string
    return ⟨.ok (some bytes.toList), place⟩
  catch e =>
    if isCircular e then return ⟨.ok none, .error circularLinks⟩
    match e with
    | .noFileOrDirectory _ _ _ => return ⟨.ok none, place⟩
    | .inappropriateType _ _ _ => return ⟨.ok none, place⟩
    | e => return ⟨.error (systemError e), place⟩

def readInput : IO (Except Raised (List UInt8)) := do
  try
    let bytes ← readAll (← IO.getStdin) .empty
    return .ok bytes.toList
  catch e => return .error (systemError e)

/-- The host, as far as a run with these settings looks at it. -/
def readHost (files : List Path) (readsInput : Bool) : IO Host := do
  let current := Path.ofString (← IO.currentDir).toString
  let found ← files.mapM fun p => do return (p, ← findPath current p)
  let find (p : Path) : Found :=
    ((found.find? fun f => f.1 == p).map Prod.snd).getD ⟨.ok none, .error circularLinks⟩
  let input ← if readsInput then readInput else pure (.ok [])
  let debug ← IO.getEnv "SJX_SASS_DEBUG"
  return {
    isFile := fun p => (find p).contents.map Option.isSome
    bytes := fun p => (find p).contents.map fun bytes => bytes.getD []
    resolve := fun p => (find p).place
    input := input
    reports := debug.any fun value => !value.isEmpty
    installed? := fun _ => none }

def printOutcome (o : Outcome) : IO UInt32 := do
  (← IO.getStdout).putStr o.output
  (← IO.getStderr).putStr o.errors
  match o.exit with
  | .ok code => return code.toUInt32
  | .error fault =>
    (← IO.getStderr).putStrLn fault.message
    return 1

end Stencil.Command

open Stencil Stencil.Command in
def main (arguments : List String) : IO UInt32 := do
  let host ← match Settings.ofArguments (arguments.map String.toList) with
    | .ok s => readHost s.files s.sourceFile?.isNone
    | .error _ => readHost [] false
  printOutcome (run Yaml.reader Compile.carryOver host arguments)
