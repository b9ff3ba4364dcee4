/-!
# Lines

A text is cut into lines in two ways. `splitLines` ends a line at every character that any script
or device uses as a line break, takes a carriage return with its line feed as one break, and yields
no line behind a final break. `splitNewlines` knows the line feed only, and yields the text behind
the last one as a line even if it is empty. `normalizeBreaks` makes every carriage return a line
feed, one with the line feed behind it.
-/

namespace Stencil.Text

/-- A character that ends a line: line feed, vertical tab, form feed, carriage return, the file,
group and record separators, next line, and the line and paragraph separators. -/
def isLineBreak (c : Char) : Bool :=
  let n := c.toNat
  (0xa ≤ n && n ≤ 0xd) || (0x1c ≤ n && n ≤ 0x1e) || n == 0x85 || n == 0x2028 || n == 0x2029

def splitLines : List Char → List (List Char)
  | [] => []
  | '\r' :: '\n' :: s => [] :: splitLines s
  | c :: s =>
    if isLineBreak c then [] :: splitLines s
    else
      match splitLines s with
      | [] => [[c]]
      | line :: lines => (c :: line) :: lines

/-- The stretches between line feeds, at least one. -/
def splitNewlines : List Char → List (List Char)
  | [] => [[]]
  | c :: s =>
    if c == '\n' then [] :: splitNewlines s
    else
      match splitNewlines s with
      | [] => [[c]]
      | line :: lines => (c :: line) :: lines

def joinNewlines (lines : List (List Char)) : List Char :=
  ['\n'].intercalate lines

theorem splitNewlines_ne_nil (s : List Char) : splitNewlines s ≠ [] := by
  cases s with
  | nil => simp [splitNewlines]
  | cons c s =>
    rw [splitNewlines]
    split
    · simp
    · split <;> simp

theorem joinNewlines_cons {line : List Char} {lines : List (List Char)} (h : lines ≠ []) :
    joinNewlines (line :: lines) = line ++ '\n' :: joinNewlines lines := by
  cases lines with
  | nil => contradiction
  | cons l ls => simp [joinNewlines, List.intercalate, List.intersperse]

theorem joinNewlines_splitNewlines (s : List Char) : joinNewlines (splitNewlines s) = s := by
  induction s with
  | nil => rfl
  | cons c s ih =>
    have hs := splitNewlines_ne_nil s
    by_cases hc : c = '\n'
    · subst hc
      simp [splitNewlines, joinNewlines_cons hs, ih]
    · have hne : (c == '\n') = false := by simpa using hc
      cases h : splitNewlines s with
      | nil => exact absurd h hs
      | cons line lines =>
        rw [h] at ih
        simp only [splitNewlines, hne, h, Bool.false_eq_true, if_false]
        cases lines with
        | nil => simp_all [joinNewlines, List.intercalate, List.intersperse]
        | cons l ls =>
          rw [joinNewlines_cons (by simp)] at ih ⊢
          simp [← ih]

/-- Makes each carriage return, with the line feed behind it if there is one, a line feed. -/
def normalizeBreaks : List Char → List Char
  | [] => []
  | '\r' :: '\n' :: s => '\n' :: normalizeBreaks s
  | c :: s => (if c == '\r' then '\n' else c) :: normalizeBreaks s

def countNewlines (s : List Char) : Nat :=
  s.countP (· == '\n')

end Stencil.Text
