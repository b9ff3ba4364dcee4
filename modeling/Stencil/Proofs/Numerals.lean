import Mathlib.Data.List.Basic
import Mathlib.Data.Nat.Digits.Defs
import Stencil.Number.Decimal

/-!
# Numerals and their values

The numeral of a number is read as that number, and it is written in decimal digits alone. It is no
longer than any other run of digits of the same value.
-/

namespace Stencil.Number

open Stencil.Text

theorem digitValue?_of_isDigit {c : Char} (h : c.isDigit = true) :
    digitValue? c = some (c.toNat - '0'.toNat) := by
  have hc : 48 ≤ c.toNat ∧ c.toNat ≤ 57 := by
    simp only [Char.isDigit, Bool.and_eq_true, decide_eq_true_eq, ge_iff_le, UInt32.le_iff_toNat_le]
      at h
    exact h
  simp [digitValue?, zeros, hc.1, hc.2]

theorem isDecimal_of_mem_numeral {n : Nat} : ∀ c ∈ numeral n, isDecimal c = true := by
  intro c hc
  have := Nat.isDigit_of_mem_toDigits (by decide) (by decide) hc
  simp [isDecimal, digitValue?_of_isDigit this]

theorem numeral_ne_nil (n : Nat) : numeral n ≠ [] :=
  Nat.toDigits_ne_nil

@[simp] theorem value_numeral (n : Nat) : value (numeral n) = n := by
  have h : value (numeral n) = Nat.ofDigitChars 10 (numeral n) 0 := by
    rw [value, Nat.ofDigitChars_eq_foldl]
    refine List.foldl_ext _ _ 0 fun k c hc => ?_
    have := Nat.isDigit_of_mem_toDigits (by decide) (by decide) hc
    simp [digitValue?_of_isDigit this]
  exact h.trans Nat.ofDigitChars_ten_toDigits

theorem numeral_injective : Function.Injective numeral :=
  Function.LeftInverse.injective value_numeral

theorem read_numeral {n : Nat} (hn : (numeral n).length ≤ longest) : read (numeral n) = .ok n :=
  read_eq_ok_iff.2 ⟨hn, (value_numeral n).symm⟩

theorem value_lt_pow (digits : List Char) : value digits < 10 ^ digits.length := by
  have hfold : ∀ n, digits.foldl (fun n c => 10 * n + (digitValue? c).getD 0) n <
      (n + 1) * 10 ^ digits.length := by
    induction digits with
    | nil => intro n; simp
    | cons c digits ih =>
      intro n
      have hdigit : (digitValue? c).getD 0 < 10 := by
        cases hv : digitValue? c with
        | none => simp
        | some v => simpa using digitValue?_lt hv
      have hrest := ih (10 * n + (digitValue? c).getD 0)
      calc
        _ < (10 * n + (digitValue? c).getD 0 + 1) * 10 ^ digits.length := hrest
        _ ≤ (n + 1) * 10 * 10 ^ digits.length := Nat.mul_le_mul_right _ (by omega)
        _ = (n + 1) * 10 ^ (digits.length + 1) := by
          rw [Nat.mul_assoc, Nat.pow_succ, Nat.mul_comm 10]
  simpa [value] using hfold 0

theorem length_numeral_value_le {digits : List Char} (hne : digits ≠ []) :
    (numeral (value digits)).length ≤ digits.length :=
  Nat.toDigits_length 10 _ _ (List.length_pos_iff.2 hne) (value_lt_pow digits)

/-! ### Numerals that are not read -/

theorem read_eq_error_iff {digits : List Char} {t : TooLong} :
    read digits = .error t ↔ longest < digits.length ∧ t = ⟨digits.length⟩ := by
  unfold read
  split
  · next hle => simp [Nat.not_lt.2 hle]
  · next hlong => simp [eq_comm, Nat.lt_of_not_le hlong]

theorem exists_read_eq_error_iff {digits : List Char} :
    (∃ t, read digits = .error t) ↔ longest < digits.length := by
  simp [read_eq_error_iff]

end Stencil.Number
