import Stencil.Number.Decimal
import Stencil.Token.Cut
import Stencil.Token.Enclosed

/-!
# Markers and placeholder tokens

A placeholder token is an opening marker, a decimal index and a closing marker. Markers are any two
texts that are not empty and do not touch the index with a digit of any kind. The value that will
stand in the token's place is not known here, so the token's characters are never changed.
-/

namespace Stencil.Token

open Stencil.Text Stencil.Number

/-- The two texts that enclose the index of a token. -/
structure Markers where
  opening : List Char
  closing : List Char
  opening_ne_nil : opening ≠ []
  closing_ne_nil : closing ≠ []
  opening_digit : ∀ c, opening.getLast? = some c → isDigit c = false
  closing_digit : ∀ c, closing.head? = some c → isDigit c = false

namespace Markers

inductive Invalid where
  | empty
  /-- A digit would touch the index. -/
  | touchesIndex
  deriving DecidableEq, Repr

/-- The characters that touch the index: the last one in front, the first one behind. -/
def touching (opening closing : List Char) : List Char :=
  opening.getLast?.toList ++ closing.head?.toList

theorem digit_of_touching {opening closing : List Char}
    (h : (touching opening closing).any isDigit = false) :
    (∀ c, opening.getLast? = some c → isDigit c = false) ∧
      ∀ c, closing.head? = some c → isDigit c = false := by
  simp only [touching, List.any_append, Bool.or_eq_false_iff, List.any_eq_false,
    Option.mem_toList] at h
  exact ⟨fun c hc => by simpa using h.1 c hc, fun c hc => by simpa using h.2 c hc⟩

def ofTexts (opening closing : List Char) : Except Invalid Markers :=
  if h₁ : opening = [] then .error .empty
  else if h₂ : closing = [] then .error .empty
  else if h₃ : (touching opening closing).any isDigit = true then .error .touchesIndex
  else
    have h := digit_of_touching (Bool.eq_false_iff.2 h₃)
    .ok ⟨opening, closing, h₁, h₂, h.1, h.2⟩

def standardOpening : List Char :=
  "%%styled-jsx-placeholder-".toList

def standardClosing : List Char :=
  "%%".toList

theorem touching_standard : (touching standardOpening standardClosing).any isDigit = false := by
  decide +kernel

/-- The markers that are used unless others are given. -/
def standard : Markers where
  opening := standardOpening
  closing := standardClosing
  opening_ne_nil := by decide +kernel
  closing_ne_nil := by decide +kernel
  opening_digit := (digit_of_touching touching_standard).1
  closing_digit := (digit_of_touching touching_standard).2

instance : Inhabited Markers := ⟨standard⟩

variable (m : Markers)

/-- The token whose index is spelled by `digits`. -/
def token (digits : List Char) : List Char :=
  m.opening ++ digits ++ m.closing

def render (index : Nat) : List Char :=
  m.token (numeral index)

structure Negative where
  index : Int
  deriving DecidableEq, Repr

def renderInteger : Int → Except Negative (List Char)
  | .ofNat n => .ok (m.render n)
  | .negSucc n => .error ⟨.negSucc n⟩

/-- Tokens as lexemes; the value of a token is its index as it is spelled. -/
def lexeme : Lexeme (List Char) where
  written := m.token
  read? := readEnclosed m.opening m.closing
  read?_eq h := (readEnclosed_eq_some h).1
  written_ne_nil digits := by simp [token, m.opening_ne_nil]

theorem stops_closing : Stops m.closing := fun c hc => by
  have h := m.closing_digit c hc
  cases hd : isDecimal c
  · rfl
  · exact absurd (isDigit_of_isDecimal hd) (by simp [h])

/-- Every token is read as its own digits, whatever stands behind it. -/
theorem read?_token {digits : List Char} (hne : digits ≠ [])
    (hdec : ∀ c ∈ digits, isDecimal c = true) (r : List Char) :
    m.lexeme.read? (m.token digits ++ r) = some (digits, r) :=
  readEnclosed_append m.closing_ne_nil m.stops_closing hne hdec

def cut (s : List Char) : Cut (List Char) :=
  m.lexeme.cut s

/-- The tokens of a text, character for character, from left to right. -/
def tokens (s : List Char) : List (List Char) :=
  (m.cut s).lexemes.map m.token

/-- Where a token stands in a text, counted in characters, and the digits of its index. -/
structure Span where
  start : Nat
  stop : Nat
  digits : List Char
  deriving DecidableEq, Repr

/-- The spans of tokens, the first of which has `n` characters before it. -/
def spansFrom : Nat → List (List Char × List Char) → List Span
  | _, [] => []
  | n, (digits, gap) :: more =>
    let stop := n + (m.token digits).length
    ⟨n, stop, digits⟩ :: spansFrom (stop + gap.length) more

def spans (s : List Char) : List Span :=
  m.spansFrom (m.cut s).head.length (m.cut s).tail

def opensAt (s : List Char) : Bool :=
  startsWith m.opening s

/-- The digits of a text that is one token and nothing else. -/
def digits? (s : List Char) : Option (List Char) :=
  match m.lexeme.read? s with
  | some (digits, []) => some digits
  | _ => none

def isToken (s : List Char) : Bool :=
  (m.digits? s).isSome

inductive NoIndex where
  | notToken (text : List Char)
  | tooLong (cause : TooLong)
  deriving DecidableEq, Repr

def index (s : List Char) : Except NoIndex Nat :=
  match m.digits? s with
  | none => .error (.notToken s)
  | some digits =>
    match read digits with
    | .error cause => .error (.tooLong cause)
    | .ok n => .ok n

/-- How often each index occurs, in the order of first occurrence. -/
def count (s : List Char) : Except TooLong (List (Nat × Nat)) := do
  let indices ← (m.cut s).lexemes.mapM read
  return indices.eraseDups.map fun n => (n, indices.count n)

end Markers

end Stencil.Token
