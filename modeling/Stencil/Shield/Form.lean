import Stencil.Number.Decimal
import Stencil.Token.Cut
import Stencil.Token.Enclosed

/-!
# Shielded forms

While a source is compiled, forms that the compiler carries over stand in for the tokens. Where a
value or a name may stand, the form is a plain identifier; a token with a percent sign behind it
has an identifier of its own that covers the sign. Where a whole declaration or rule stands, the
form is a comment of the kind that is kept in every output style.
-/

namespace Stencil.Shield

open Stencil.Text Stencil.Number Stencil.Token

inductive Kind where
  | plain
  | percent
  | statement
  deriving DecidableEq, Repr

namespace Kind

def label : Kind → List Char
  | plain => ['p', 'h']
  | percent => ['p', 'c', 't']
  | statement => ['s', 't', 'm', 't']

/-- The reserved name of a kind up to the index. -/
def stem (k : Kind) : List Char :=
  ['_', '_', 's', 'j', 'x', '_'] ++ k.label ++ ['_']

def left : Kind → List Char
  | statement => ['/', '*', '!'] ++ stem statement
  | k => k.stem

def right : Kind → List Char
  | statement => ['_', '_', '*', '/']
  | _ => ['_', '_']

/-- What the form covers behind the token itself. -/
def covered : Kind → List Char
  | percent => ['%']
  | _ => []

theorem left_ne_nil (k : Kind) : k.left ≠ [] := by cases k <;> simp [left, stem]

theorem right_ne_nil (k : Kind) : k.right ≠ [] := by cases k <;> simp [right]

theorem stops_right (k : Kind) : Stops k.right := by
  intro c h
  cases k <;> · obtain rfl : '_' = c := by simpa [right] using h
                decide

end Kind

/-- A shielded form with the digits of its index. -/
structure Form where
  kind : Kind
  digits : List Char
  deriving DecidableEq, Repr

namespace Form

def written (f : Form) : List Char :=
  f.kind.left ++ f.digits ++ f.kind.right

def readKind? (k : Kind) (s : List Char) : Option (Form × List Char) :=
  (readEnclosed k.left k.right s).map fun p => (⟨k, p.1⟩, p.2)

theorem readKind?_eq {k : Kind} {s : List Char} {f : Form} {r : List Char}
    (h : readKind? k s = some (f, r)) : s = f.written ++ r := by
  obtain ⟨p, hp, he⟩ := Option.map_eq_some_iff.1 h
  obtain ⟨rfl, rfl⟩ := Prod.mk.inj he
  exact (readEnclosed_eq_some hp).1

def lexeme : Lexeme Form where
  written := written
  read? s := readKind? .statement s <|> readKind? .plain s <|> readKind? .percent s
  read?_eq {s f r} h := by
    simp only [Option.orElse_eq_orElse, Option.orElse_eq_or, Option.or_eq_some_iff] at h
    rcases h with h | ⟨_, h | ⟨_, h⟩⟩ <;> exact readKind?_eq h
  written_ne_nil f := by simp [written, f.kind.left_ne_nil]

/-- Reads a reserved name of kind `k`: the stem, an index, two underscores. -/
def readReserved? (k : Kind) (s : List Char) : Option (List Char) :=
  (readEnclosed k.stem ['_', '_'] s).map fun p => k.stem ++ p.1 ++ ['_', '_']

def reservedAt? (s : List Char) : Option (List Char) :=
  readReserved? .plain s <|> readReserved? .percent s <|> readReserved? .statement s

end Form

/-- The first reserved name in a text. A source that holds one could not be told from a shielded
source. -/
def reserved? : List Char → Option (List Char)
  | [] => none
  | c :: s => Form.reservedAt? (c :: s) <|> reserved? s

end Stencil.Shield
