/-!
# Ranges of code points

Properties of characters are tables of inclusive ranges in ascending order. Membership stops at the
first range that starts beyond the code point; `within_iff` says that on an ascending table this
misses nothing.
-/

namespace Stencil.Text

def within : List (Nat × Nat) → Nat → Bool
  | [], _ => false
  | (lo, hi) :: more, n => if n < lo then false else n ≤ hi || within more n

/-- Whether no range is empty and every range ends before the next one starts. -/
def ascending : List (Nat × Nat) → Bool
  | [] => true
  | [(lo, hi)] => lo ≤ hi
  | (lo, hi) :: (lo', hi') :: more => lo ≤ hi && hi < lo' && ascending ((lo', hi') :: more)

theorem ascending_tail {r : Nat × Nat} {more : List (Nat × Nat)}
    (h : ascending (r :: more) = true) : ascending more = true := by
  cases more with
  | nil => rfl
  | cons s more => simp_all [ascending]

theorem ascending_le {r : Nat × Nat} {more : List (Nat × Nat)}
    (h : ascending (r :: more) = true) : r.1 ≤ r.2 := by
  cases more <;> simp_all [ascending]

theorem ascending_lt {r : Nat × Nat} {more : List (Nat × Nat)}
    (h : ascending (r :: more) = true) : ∀ s ∈ more, r.2 < s.1 := by
  induction more generalizing r with
  | nil => simp
  | cons t more ih =>
    intro s hs
    have hrt : r.2 < t.1 := by simp_all [ascending]
    rcases List.mem_cons.1 hs with rfl | hs
    · exact hrt
    · have := ascending_le (ascending_tail h)
      have := ih (ascending_tail h) s hs
      omega

/-- On an ascending table the early stop misses no range. -/
theorem within_iff {table : List (Nat × Nat)} (h : ascending table = true) (n : Nat) :
    within table n = true ↔ ∃ r ∈ table, r.1 ≤ n ∧ n ≤ r.2 := by
  induction table with
  | nil => simp [within]
  | cons r more ih =>
    obtain ⟨lo, hi⟩ := r
    by_cases hn : n < lo
    · simp only [within, hn, if_true, Bool.false_eq_true, false_iff]
      rintro ⟨s, hs, h1, h2⟩
      rcases List.mem_cons.1 hs with rfl | hs
      · simp at h1; omega
      · have := ascending_lt h s hs
        have := ascending_le h
        simp at *; omega
    · simp only [within, hn, if_false, Bool.or_eq_true, decide_eq_true_eq,
        ih (ascending_tail h), List.mem_cons, exists_eq_or_imp]
      exact or_congr ⟨fun h => ⟨by omega, h⟩, fun h => h.2⟩ Iff.rfl

end Stencil.Text
