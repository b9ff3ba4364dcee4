import Stencil.Proofs.CompiledRuns
import Stencil.Proofs.RestoredForms

/-!
# No form leaves a run

The forms are internal names. With the standard markers none of them is in what restoring or
unshielding returns, not even one that is put together from what stood apart, and so none is in what
a run returns.
-/

namespace Stencil.Shield

open Stencil.Text Stencil.Number Stencil.Token

variable {s : List Char}

theorem formless_iff : Formless s ↔
    ∀ f : Form, f.digits ≠ [] → (∀ c ∈ f.digits, isDecimal c = true) → ¬ f.written <:+: s := by
  constructor
  · intro h f hne hdec
    exact h f (Form.reads_iff.2 ⟨hne, hdec⟩)
  · intro h f hf
    obtain ⟨hne, hdec⟩ := Form.reads_iff.1 hf
    exact h f hne hdec

theorem formless_strip (h : Formless s) : Formless (strip s) := by
  have hleft : stripLeft s <:+: s := (List.dropWhile_suffix isBlank).isInfix
  have hright : strip s <:+: stripLeft s := by
    obtain ⟨b, hb⟩ := List.dropWhile_suffix isBlank (l := (stripLeft s).reverse)
    refine ⟨[], b.reverse, ?_⟩
    rw [List.nil_append, strip, stripRight, ← List.reverse_append, hb, List.reverse_reverse]
  exact h.of_inside (hright.trans hleft)

end Stencil.Shield

namespace Stencil.Compile

open Stencil.Text Stencil.Token Stencil.Shield Stencil.Adjacency

/-- With the standard markers the result of a run holds no form, whatever the compiler returns. -/
theorem formless_compile {compiler : Compiler} {source out : List Char} {o : Options}
    (hm : o.markers = .standard) (h : (compile compiler source o).result = .ok out) :
    Formless out := by
  obtain ⟨staged, css, text, -, -, hrestored, rfl⟩ := result_compile_eq_ok_iff.1 h
  rw [hm] at hrestored
  exact formless_strip (formless_of_restoreText hrestored)

end Stencil.Compile

namespace Stencil.Adjacency

open Stencil.Text Stencil.Token Stencil.Shield

/-- No form of any kind and index is in a restored or an unshielded text, whatever rules are used.
So unshielding a second time returns, and it changes nothing. -/
theorem not_form_inside_restoreText (css : List Char) :
    (∀ rules out, restoreText .standard css rules = .ok out →
      ∀ f : Form, f.digits ≠ [] → (∀ c ∈ f.digits, isDecimal c = true) → ¬ f.written <:+: out) ∧
    ∀ s, unshield .standard css = .ok s →
      (∀ f : Form, f.digits ≠ [] → (∀ c ∈ f.digits, isDecimal c = true) → ¬ f.written <:+: s) ∧
        unshield .standard s = .ok s := by
  constructor
  · intro rules out h
    exact formless_iff.1 (formless_of_restoreText h)
  · intro s h
    have hs := formless_of_unshield h
    exact ⟨formless_iff.1 hs, unshield_of_formless _ hs⟩

/-- A style sheet whose forms overlap in their underscores and stand inside of other names. -/
def overlappingSheet : List Char :=
  "a:__sjx_ph_1__sjx_ph_2__ px __sjx_ph__sjx_pct_3___/*!__sjx_stmt_4__*/4__".toList

def unshieldedSheet : List Char :=
  ("a:%%styled-jsx-placeholder-1%%sjx_ph_2__ px " ++
    "__sjx_ph%%styled-jsx-placeholder-3%%%_%%styled-jsx-placeholder-4%%4__").toList

theorem not_form_inside_restoreText_overlappingSheet :
    restoreText .standard overlappingSheet = .ok unshieldedSheet ∧
      unshield .standard overlappingSheet = .ok unshieldedSheet ∧
      ¬ Form.written ⟨.plain, ['2']⟩ <:+: unshieldedSheet ∧
      unshield .standard unshieldedSheet = .ok unshieldedSheet := by
  have hrestored : restoreText .standard overlappingSheet = .ok unshieldedSheet := by
    decide +kernel
  have hunshielded : unshield .standard overlappingSheet = .ok unshieldedSheet := by
    decide +kernel
  obtain ⟨hout, hback⟩ := not_form_inside_restoreText overlappingSheet
  have hsecond := hout _ _ hrestored ⟨.plain, ['2']⟩ (by decide) (List.all_eq_true.1 rfl)
  exact ⟨hrestored, hunshielded, hsecond, (hback _ hunshielded).2⟩

end Stencil.Adjacency
