/-!
# Paths

A path is a root and a list of parts. Parts are separated by slashes; empty parts and parts that
are a single dot mean nothing and are dropped, while a double dot is kept, because what it leads to
is known only where the path is followed. A text that begins with exactly two slashes has a root of
its own. The path without root and parts is written as a dot.
-/

namespace Stencil.Files

/-- Where a path begins: at the current directory, at the root, or at the root that two slashes
name. -/
inductive Root where
  | here
  | slash
  | slashes
  deriving DecidableEq, Repr

def Root.text : Root → List Char
  | here => []
  | slash => ['/']
  | slashes => ['/', '/']

def isMeant (part : List Char) : Bool :=
  !part.isEmpty && part != ['.']

/-- A root and the parts behind it. Every part means something and can stand between slashes, so a
path is read back from its text. -/
@[ext] structure Path where
  root : Root
  parts : List (List Char)
  proper : ∀ part ∈ parts, isMeant part = true ∧ '/' ∉ part
  deriving DecidableEq, Repr

/-- The stretches of a text between slashes, at least one. -/
def splitSlashes : List Char → List (List Char)
  | [] => [[]]
  | c :: s =>
    if c == '/' then [] :: splitSlashes s
    else
      match splitSlashes s with
      | [] => [[c]]
      | part :: parts => (c :: part) :: parts

theorem not_mem_of_mem_splitSlashes {part s : List Char} (h : part ∈ splitSlashes s) :
    '/' ∉ part := by
  induction s generalizing part with
  | nil =>
    obtain rfl := List.mem_singleton.1 h
    simp
  | cons c s ih =>
    rw [splitSlashes] at h
    split at h
    · rcases List.mem_cons.1 h with rfl | h
      · simp
      · exact ih h
    · next hc =>
      have hc : '/' ≠ c := fun he => hc (beq_iff_eq.2 he.symm)
      split at h
      · obtain rfl := List.mem_singleton.1 h
        simpa using hc
      · next first parts hs =>
        rcases List.mem_cons.1 h with rfl | h
        · have hfirst : '/' ∉ first := ih (by simp [hs])
          simpa [hc] using hfirst
        · exact ih (by simp [hs, h])

namespace Path

/-- The path without root and parts. -/
def dot : Path :=
  ⟨.here, [], by simp⟩

def rootOf : List Char → Root
  | '/' :: '/' :: '/' :: _ => .slash
  | '/' :: '/' :: _ => .slashes
  | '/' :: _ => .slash
  | _ => .here

def ofText (s : List Char) : Path where
  root := rootOf s
  parts := (splitSlashes s).filter isMeant
  proper := by
    intro part hpart
    obtain ⟨hsplit, hmeant⟩ := List.mem_filter.1 hpart
    exact ⟨hmeant, not_mem_of_mem_splitSlashes hsplit⟩

def ofString (s : String) : Path :=
  ofText s.toList

def text (p : Path) : List Char :=
  if p.root = .here ∧ p.parts = [] then ['.']
  else p.root.text ++ ['/'].intercalate p.parts

def string (p : Path) : String :=
  String.ofList p.text

/-- The path without its last part. -/
def parent (p : Path) : Path where
  root := p.root
  parts := p.parts.dropLast
  proper part hpart := p.proper part ((List.dropLast_sublist _).subset hpart)

def isAbsolute (p : Path) : Bool :=
  p.root != .here

/-- The path `p` seen from `base`. -/
def join (base p : Path) : Path :=
  if p.isAbsolute then p
  else
    { root := base.root
      parts := base.parts ++ p.parts
      proper := by
        intro part hpart
        rcases List.mem_append.1 hpart with hpart | hpart
        · exact base.proper part hpart
        · exact p.proper part hpart }

theorem join_of_isAbsolute {base p : Path} (h : p.isAbsolute = true) : base.join p = p := by
  simp [join, h]

end Path

abbrev AbsolutePath := {p : Path // p.isAbsolute = true}

end Stencil.Files
