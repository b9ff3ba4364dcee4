import Stencil.Text.Cursor
import Stencil.Text.Digit

/-!
# Enclosed numerals

A run of decimal digits between two fixed texts. All digits that stand there are taken. This is
the only way to read an enclosed numeral if the text behind it does not begin with a digit:
`readEnclosed_append`.
-/

namespace Stencil.Token

open Stencil.Text

/-- Reads `left`, then all decimal digits, at least one, then `right`. -/
def readEnclosed (left right s : List Char) : Option (List Char × List Char) := do
  let s ← after? left s
  let digits := s.takeWhile isDecimal
  if digits.isEmpty then none
  else
    let s ← after? right (s.dropWhile isDecimal)
    return (digits, s)

theorem readEnclosed_eq_some {left right s digits r : List Char}
    (h : readEnclosed left right s = some (digits, r)) :
    s = left ++ digits ++ right ++ r ∧ digits ≠ [] ∧ ∀ c ∈ digits, isDecimal c = true := by
  unfold readEnclosed at h
  simp only [Option.bind_eq_bind, Option.bind_eq_some_iff, after?_eq_some_iff] at h
  obtain ⟨t, rfl, h⟩ := h
  split at h
  · simp at h
  · next hne =>
    simp only [Option.bind_eq_some_iff, after?_eq_some_iff] at h
    obtain ⟨u, hu, h⟩ := h
    obtain ⟨rfl, rfl⟩ := Prod.mk.inj (Option.some.inj h)
    refine ⟨?_, by simpa using hne, fun c hc => ?_⟩
    · rw [List.append_assoc, List.append_assoc, ← hu, List.takeWhile_append_dropWhile]
    · exact holds_of_mem_takeWhile hc

/-- Whether a text may stand behind the digits of an enclosed numeral. -/
def Stops (right : List Char) : Prop :=
  ∀ c, right.head? = some c → isDecimal c = false

theorem readEnclosed_append {left right digits r : List Char} (hright : right ≠ [])
    (hstop : Stops right) (hne : digits ≠ []) (hdec : ∀ c ∈ digits, isDecimal c = true) :
    readEnclosed left right (left ++ digits ++ right ++ r) = some (digits, r) := by
  obtain ⟨c, right, rfl⟩ := List.exists_cons_of_ne_nil hright
  have hc : isDecimal c = false := hstop c rfl
  have htake : (digits ++ (c :: right ++ r)).takeWhile isDecimal = digits := by
    rw [List.takeWhile_append_of_pos hdec]
    simp [hc]
  have hdrop : (digits ++ (c :: right ++ r)).dropWhile isDecimal = c :: right ++ r := by
    rw [List.dropWhile_append_of_pos hdec]
    simp [hc]
  simp only [readEnclosed, List.append_assoc, after?_append, Option.bind_eq_bind,
    Option.bind_some] at *
  simp only [htake, hdrop, List.isEmpty_iff, hne, if_false]
  rw [after?_append]
  rfl

end Stencil.Token
