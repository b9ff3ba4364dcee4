import Stencil.Proofs.Formless

/-!
# The check for reserved names

The check finds a reserved name wherever one stands: the stem of a kind, an index and two
underscores. It refuses more than the forms themselves, because the name of a statement form is
refused without its comment signs as well.
-/

namespace Stencil.Shield

open Stencil.Text Stencil.Token

variable {s : List Char}

theorem readReserved?_ne_none_iff {k : Kind} : Form.readReserved? k s ≠ none ↔
    ∃ digits b, digits ≠ [] ∧ (∀ c ∈ digits, isDecimal c = true) ∧
      s = k.stem ++ (digits ++ '_' :: '_' :: b) := by
  rw [Form.readReserved?, Ne, Option.map_eq_none_iff]
  constructor
  · intro h
    obtain ⟨p, hp⟩ := Option.ne_none_iff_exists'.1 h
    obtain ⟨digits, b⟩ := p
    obtain ⟨rfl, hne, hdec⟩ := readEnclosed_eq_some hp
    exact ⟨digits, b, hne, hdec, by simp⟩
  · rintro ⟨digits, b, hne, hdec, rfl⟩ h
    have he : k.stem ++ (digits ++ '_' :: '_' :: b) =
        k.stem ++ digits ++ Kind.plain.right ++ b := by simp [Kind.right]
    have hread : readEnclosed k.stem Kind.plain.right
        (k.stem ++ digits ++ Kind.plain.right ++ b) = some (digits, b) :=
      readEnclosed_append Kind.plain.right_ne_nil Kind.plain.stops_right hne hdec
    rw [he] at h
    exact absurd (h.symm.trans hread) (by simp)

theorem reservedAt?_ne_none_iff :
    Form.reservedAt? s ≠ none ↔ ∃ k, Form.readReserved? k s ≠ none := by
  simp only [Form.reservedAt?, Option.orElse_eq_orElse, Option.orElse_eq_or, Ne,
    Option.or_eq_none_iff]
  constructor
  · intro h
    by_contra hall
    simp only [not_exists, not_not] at hall
    exact h ⟨hall .plain, hall .percent, hall .statement⟩
  · rintro ⟨k, hk⟩ ⟨hplain, hpercent, hstatement⟩
    cases k with
    | plain => exact hk hplain
    | percent => exact hk hpercent
    | statement => exact hk hstatement

/-- The check for reserved names refuses the texts that hold one, and no others. -/
theorem reserved?_ne_none_iff : reserved? s ≠ none ↔
    ∃ (a : List Char) (k : Kind) (digits b : List Char), digits ≠ [] ∧
      (∀ c ∈ digits, isDecimal c = true) ∧
        s = a ++ (k.stem ++ (digits ++ '_' :: '_' :: b)) := by
  induction s with
  | nil => simp [reserved?, Kind.stem]
  | cons c s ih =>
    rw [reserved?, Option.orElse_eq_orElse, Option.orElse_eq_or, Ne, Option.or_eq_none_iff,
      Classical.not_and_iff_not_or_not, ← Ne, ← Ne, ih, reservedAt?_ne_none_iff]
    simp only [readReserved?_ne_none_iff]
    constructor
    · rintro (⟨k, digits, b, hne, hdec, hs⟩ | ⟨a, k, digits, b, hne, hdec, rfl⟩)
      · exact ⟨[], k, digits, b, hne, hdec, hs⟩
      · exact ⟨c :: a, k, digits, b, hne, hdec, rfl⟩
    · rintro ⟨a, k, digits, b, hne, hdec, hs⟩
      cases a with
      | nil => exact .inl ⟨k, digits, b, hne, hdec, hs⟩
      | cons c' a =>
        obtain ⟨rfl, rfl⟩ := List.cons.inj hs
        exact .inr ⟨a, k, digits, b, hne, hdec, rfl⟩

theorem reserved?_append_stem (k : Kind) {digits : List Char} (a b : List Char) (hne : digits ≠ [])
    (hdec : ∀ c ∈ digits, isDecimal c = true) :
    reserved? (a ++ (k.stem ++ (digits ++ '_' :: '_' :: b))) ≠ none :=
  reserved?_ne_none_iff.2 ⟨a, k, digits, b, hne, hdec, rfl⟩

theorem reserved?_of_inside {t : List Char} (h : reserved? s = none) (ht : t <:+: s) :
    reserved? t = none := by
  by_contra hne
  obtain ⟨a, k, digits, b, hdigits, hdec, rfl⟩ := reserved?_ne_none_iff.1 hne
  obtain ⟨x, y, rfl⟩ := ht
  refine reserved?_append_stem k (x ++ a) (b ++ y) hdigits hdec ?_
  simpa using h

theorem Kind.left_eq_append_stem (k : Kind) : ∃ a, k.left = a ++ k.stem := by
  cases k with
  | plain => exact ⟨[], rfl⟩
  | percent => exact ⟨[], rfl⟩
  | statement => exact ⟨['/', '*', '!'], rfl⟩

theorem Kind.right_eq_append (k : Kind) : ∃ b, k.right = '_' :: '_' :: b := by
  cases k with
  | plain => exact ⟨[], rfl⟩
  | percent => exact ⟨[], rfl⟩
  | statement => exact ⟨['*', '/'], rfl⟩

/-- Every form holds a reserved name, so a text without reserved names holds no form. -/
theorem formless_of_reserved? (h : reserved? s = none) : Formless s := by
  intro f hf hs
  obtain ⟨hdigits, hdec⟩ := Form.reads_iff.1 hf
  obtain ⟨a, ha⟩ := f.kind.left_eq_append_stem
  obtain ⟨b, hb⟩ := f.kind.right_eq_append
  have hname := reserved?_append_stem f.kind a b hdigits hdec
  have hwritten : f.written = a ++ (f.kind.stem ++ (f.digits ++ '_' :: '_' :: b)) := by
    rw [Form.written, ha, hb]
    simp only [List.append_assoc]
  rw [← hwritten] at hname
  exact hname (reserved?_of_inside h hs)

end Stencil.Shield
