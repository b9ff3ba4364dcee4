/-!
# Cutting a text at its lexemes

A lexeme is a piece of text with a meaning of its own, such as a placeholder token. Reading one at
the front of a text is exact: what was read, written down again, is what stood there. A text is cut
at its lexemes from the left, so that each begins where no earlier one is still going on, and the
cut keeps the gaps between them. Nothing is lost: `weave_cut`.
-/

namespace Stencil.Token

/-- A kind of lexeme: how its values are written and how one is read at the front of a text. -/
structure Lexeme (α : Type) where
  written : α → List Char
  read? : List Char → Option (α × List Char)
  read?_eq : ∀ {s : List Char} {a : α} {r : List Char}, read? s = some (a, r) → s = written a ++ r
  written_ne_nil : ∀ a : α, written a ≠ []

/-- A text in pieces: the gap in front, then every lexeme with the gap behind it. -/
structure Cut (α : Type) where
  head : List Char
  tail : List (α × List Char)

namespace Cut

variable {α β ε : Type}

/-- The text that has `f a` in the place of every lexeme `a`, and the same gaps. -/
def weave (f : α → List Char) (c : Cut α) : List Char :=
  c.head ++ c.tail.flatMap fun p => f p.1 ++ p.2

def lexemes (c : Cut α) : List α :=
  c.tail.map Prod.fst

/-- Replaces every lexeme, from left to right, until one cannot be. -/
def traverse (f : α → Except ε β) (c : Cut α) : Except ε (Cut β) := do
  let tail ← c.tail.mapM fun p => do return (← f p.1, p.2)
  return ⟨c.head, tail⟩

def consChar (x : Char) (c : Cut α) : Cut α :=
  ⟨x :: c.head, c.tail⟩

def consLexeme (a : α) (c : Cut α) : Cut α :=
  ⟨[], (a, c.head) :: c.tail⟩

@[simp] theorem weave_consChar (f : α → List Char) (x : Char) (c : Cut α) :
    (c.consChar x).weave f = x :: c.weave f := rfl

@[simp] theorem weave_consLexeme (f : α → List Char) (a : α) (c : Cut α) :
    (c.consLexeme a).weave f = f a ++ c.weave f := by
  simp [consLexeme, weave]

end Cut

namespace Lexeme

variable {α : Type} (L : Lexeme α)

theorem length_lt {s r : List Char} {a : α} (h : L.read? s = some (a, r)) :
    r.length < s.length := by
  rw [L.read?_eq h, List.length_append]
  have := List.length_pos_iff.2 (L.written_ne_nil a)
  omega

/-- Cuts a text at its lexemes, leftmost first. -/
def cut (s : List Char) : Cut α :=
  match _h : L.read? s with
  | some (a, r) => (cut r).consLexeme a
  | none =>
    match s with
    | [] => ⟨[], []⟩
    | x :: s => (cut s).consChar x
termination_by s.length
decreasing_by
  · exact L.length_lt ‹_›
  · exact Nat.lt_succ_self _

theorem cut_of_read? {s r : List Char} {a : α} (h : L.read? s = some (a, r)) :
    L.cut s = (L.cut r).consLexeme a := by
  rw [cut]
  split <;> simp_all

theorem cut_cons {s : List Char} {x : Char} (h : L.read? (x :: s) = none) :
    L.cut (x :: s) = (L.cut s).consChar x := by
  rw [cut]
  split <;> simp_all

@[simp] theorem read?_nil : L.read? [] = none := by
  cases h : L.read? [] with
  | none => rfl
  | some p => exact absurd (L.length_lt h) (by simp)

@[simp] theorem cut_nil : L.cut [] = ⟨[], []⟩ := by
  rw [cut]
  split <;> simp_all

/-- Writing the lexemes of a cut back between its gaps restores the text. -/
theorem weave_cut (s : List Char) : (L.cut s).weave L.written = s := by
  induction hn : s.length using Nat.strongRecOn generalizing s with
  | _ n ih =>
    subst hn
    cases h : L.read? s with
    | some p =>
      rw [L.cut_of_read? h, Cut.weave_consLexeme, ih _ (L.length_lt h) _ rfl]
      exact (L.read?_eq h).symm
    | none =>
      cases s with
      | nil => simp [Cut.weave]
      | cons x s => rw [L.cut_cons h, Cut.weave_consChar, ih _ (by simp) _ rfl]

def lexemes (s : List Char) : List α :=
  (L.cut s).lexemes

end Lexeme

end Stencil.Token
