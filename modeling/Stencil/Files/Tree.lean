import Stencil.Files.Path

/-!
# Trees of files

Files held in memory, each under its parts from the root. A directory is there because something is
in it, and the current directory is there. A path is followed part by part, and every part but the
last must lead to a directory, so a double dot behind something that is no directory leads nowhere.
There are no links, so a path is resolved by its parts alone.
-/

namespace Stencil.Files

/-- Files by their parts from the root, and the current directory. -/
structure Tree where
  current : Path
  files : List (List (List Char) × List UInt8)

namespace Tree

variable (t : Tree)

/-- Whether parts from the root lead to a directory. -/
def isDirectory (dir : List (List Char)) : Bool :=
  dir.isPrefixOf t.current.parts || t.files.any fun f => dir != f.1 && dir.isPrefixOf f.1

/-- Where one more part leads from a directory; going up from the root leads to the root. -/
def enter (dir : List (List Char)) (part : List Char) : List (List Char) :=
  if part == ['.', '.'] then dir.dropLast else dir ++ [part]

/-- Follows parts from a directory, as long as each is taken in a directory. -/
def walk (dir : List (List Char)) : List (List Char) → Option (List (List Char))
  | [] => some dir
  | part :: parts => if t.isDirectory dir then walk (enter dir part) parts else none

def file? (p : Path) : Option (List UInt8) := do
  let place ← t.walk [] (t.current.join p).parts
  let file ← t.files.find? (·.1 == place)
  return file.2

theorem mem_of_mem_foldl_enter {dir parts : List (List Char)} {part : List Char}
    (h : part ∈ parts.foldl enter dir) : part ∈ dir ∨ part ∈ parts := by
  induction parts generalizing dir with
  | nil => exact .inl h
  | cons first parts ih =>
    rcases ih h with hdir | hparts
    · unfold enter at hdir
      split at hdir
      · exact .inl ((List.dropLast_sublist dir).subset hdir)
      · rcases List.mem_append.1 hdir with hdir | hfirst
        · exact .inl hdir
        · exact .inr (by simp [List.mem_singleton.1 hfirst])
    · exact .inr (List.mem_cons_of_mem first hparts)

/-- The path without double dots that a path means. -/
def resolve (p : Path) : AbsolutePath where
  val :=
    { root := .slash
      parts := (t.current.join p).parts.foldl enter []
      proper := by
        intro part hpart
        rcases mem_of_mem_foldl_enter hpart with hnone | hpart
        · simp at hnone
        · exact (t.current.join p).proper part hpart }
  property := rfl

end Tree

end Stencil.Files
