/-!
# Blanks

Two notions of blank meet in a style sheet. `isBlank` is every white-space character of every
script, together with the four information separators; it decides which lines are empty and what
stripping removes. `isStyleBlank` is the white space of style sheets alone: space, tab, line feed,
carriage return and form feed. Every style blank is a blank. Numbers are read with white space
around them, but not with separators.
-/

namespace Stencil.Text

/-- White space of any script, and the information separators. -/
def isBlank (c : Char) : Bool :=
  let n := c.toNat
  (0x9 ≤ n && n ≤ 0xd) || (0x1c ≤ n && n ≤ 0x20) || n == 0x85 || n == 0xa0 || n == 0x1680 ||
    (0x2000 ≤ n && n ≤ 0x200a) || n == 0x2028 || n == 0x2029 || n == 0x202f || n == 0x205f ||
    n == 0x3000

/-- White space of any script, without the information separators. -/
def isSpacing (c : Char) : Bool :=
  isBlank c && !(0x1c ≤ c.toNat && c.toNat ≤ 0x1f)

def isStyleBlank (c : Char) : Bool :=
  c == ' ' || c == '\t' || c == '\r' || c == '\n' || c == '\x0c'

/-- A space or a tab, the two characters that indent a line. -/
def isIndent (c : Char) : Bool :=
  c == ' ' || c == '\t'

theorem isBlank_of_isStyleBlank {c : Char} (h : isStyleBlank c = true) : isBlank c = true := by
  simp only [isStyleBlank, Bool.or_eq_true, beq_iff_eq] at h
  rcases h with (((rfl | rfl) | rfl) | rfl) | rfl <;> decide

theorem isIndent_iff {c : Char} : isIndent c = true ↔ c = ' ' ∨ c = '\t' := by
  simp [isIndent]

def stripLeft (s : List Char) : List Char :=
  s.dropWhile isBlank

def stripRight (s : List Char) : List Char :=
  (s.reverse.dropWhile isBlank).reverse

def strip (s : List Char) : List Char :=
  stripRight (stripLeft s)

def allBlank (s : List Char) : Bool :=
  s.all isBlank

theorem stripLeft_eq_nil_iff (s : List Char) : stripLeft s = [] ↔ allBlank s = true := by
  induction s with
  | nil => simp [stripLeft, allBlank]
  | cons c s ih =>
    cases hc : isBlank c
    · simp [stripLeft, allBlank, hc]
    · simp only [stripLeft, allBlank] at ih
      simp [stripLeft, allBlank, hc, ih]

end Stencil.Text
