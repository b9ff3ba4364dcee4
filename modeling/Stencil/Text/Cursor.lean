/-!
# Looking forward and back

The questions that are asked about a place in a text: what follows a fixed text that stands here,
which of some characters comes first, and what stands behind the last of some characters.
-/

namespace Stencil.Text

/-- What follows `front`, if the text starts with it. -/
def after? : List Char → List Char → Option (List Char)
  | [], s => some s
  | _ :: _, [] => none
  | c :: front, d :: s => if c = d then after? front s else none

theorem after?_eq_some_iff {front s r : List Char} : after? front s = some r ↔ s = front ++ r := by
  induction front generalizing s with
  | nil => simp [after?]
  | cons c front ih =>
    cases s with
    | nil => simp [after?]
    | cons d s =>
      by_cases h : c = d
      · simp [after?, h, ih]
      · simp [after?, h, Ne.symm h]

@[simp] theorem after?_append (front r : List Char) : after? front (front ++ r) = some r :=
  after?_eq_some_iff.2 rfl

theorem after?_eq_none_iff {front s : List Char} : after? front s = none ↔ ¬ front <+: s := by
  rw [Option.eq_none_iff_forall_ne_some, List.IsPrefix, not_exists]
  exact forall_congr' fun rest => not_congr (by rw [after?_eq_some_iff, eq_comm])

def startsWith (front s : List Char) : Bool :=
  (after? front s).isSome

theorem startsWith_iff {front s : List Char} : startsWith front s = true ↔ ∃ r, s = front ++ r := by
  simp [startsWith, Option.isSome_iff_exists, after?_eq_some_iff]

theorem holds_of_mem_takeWhile {p : Char → Bool} {s : List Char} {c : Char}
    (h : c ∈ s.takeWhile p) : p c = true := by
  induction s with
  | nil => simp at h
  | cons d s ih =>
    cases hd : p d
    · simp [hd] at h
    · rcases List.mem_cons.1 (by simpa [hd] using h) with rfl | h
      · exact hd
      · exact ih h

theorem takeWhile_append_of_head? {p : Char → Bool} {rest : List Char}
    (h : ∀ c, rest.head? = some c → p c = false) (gap : List Char) :
    (gap ++ rest).takeWhile p = gap.takeWhile p := by
  induction gap with
  | nil =>
    cases rest with
    | nil => rfl
    | cons c rest => simp [h c rfl]
  | cons c gap ih => simp [List.takeWhile_cons, ih]

theorem dropWhile_append_of_head? {p : Char → Bool} {rest : List Char}
    (h : ∀ c, rest.head? = some c → p c = false) (gap : List Char) :
    (gap ++ rest).dropWhile p = gap.dropWhile p ++ rest := by
  induction gap with
  | nil =>
    cases rest with
    | nil => rfl
    | cons c rest => simp [h c rfl]
  | cons c gap ih =>
    cases hc : p c
    · simp [hc]
    · simpa [hc] using ih

/-- The characters behind the last one that `p` holds of; the whole text if there is none. -/
def behindLast (p : Char → Bool) (s : List Char) : List Char :=
  (s.reverse.takeWhile fun c => !p c).reverse

theorem behindLast_append_of_mem {p : Char → Bool} {b : List Char} (h : ∃ c ∈ b, p c = true)
    (a : List Char) : behindLast p (a ++ b) = behindLast p b := by
  obtain ⟨c, hc, hp⟩ := h
  have hr : c ∈ b.reverse := List.mem_reverse.2 hc
  have key : ∀ l m : List Char, c ∈ l →
      (l ++ m).takeWhile (fun c => !p c) = l.takeWhile fun c => !p c := by
    intro l m hl
    induction l with
    | nil => simp at hl
    | cons d l ih =>
      cases hd : p d
      · have hdc : c ≠ d := fun e => by simp [e, hd] at hp
        have : c ∈ l := by simpa [hdc] using hl
        simp [hd, ih this]
      · simp [hd]
  simp [behindLast, List.reverse_append, key _ _ hr]

/-- Whether the first of the characters that `p` holds of is `c`. -/
def meets (p : Char → Bool) (c : Char) (s : List Char) : Bool :=
  s.find? p == some c

end Stencil.Text
