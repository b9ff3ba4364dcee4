import Stencil.Compile.Basic
import Stencil.Proofs.RestoredTokens

/-!
# What a successful run went through

A fragment is compiled only if every stage returns: its indentation is removed, no reserved name
stands in it, its use rules become imports, its tokens are shielded, the compiler answers, and the
answer is restored. Each stage is handed what the one before it returned.
-/

namespace Stencil

open Stencil.Text Stencil.Options Stencil.Source Stencil.Shield Stencil.Adjacency

namespace Source

variable {source text : List Char} {o : Options} {staged : Staged}

theorem checkReserved_eq_ok_iff : checkReserved text = .ok () ↔ reserved? text = none := by
  cases h : reserved? text <;> simp [checkReserved, h]

theorem assembled_eq_ok_iff : assembled o source = .ok text ↔
    ∃ s, unindented o source = .ok s ∧ text = withPreamble o s := by
  simp only [assembled, bind_eq_ok_iff, pure_eq_ok_iff]

theorem stage_eq_ok_iff : stage source o = .ok staged ↔
    ∃ text rewritten shielded, assembled o source = .ok text ∧ reserved? text = none ∧
      rewriteUse text = .ok rewritten ∧ shield o.markers o.dialect rewritten = .ok shielded ∧
        staged = ⟨shielded, o.dialect, includePaths o⟩ := by
  simp only [stage, bind_eq_ok_iff, pure_eq_ok_iff, mapError_eq_ok_iff]
  constructor
  · rintro ⟨text, htext, _, hfree, rewritten, huse, shielded, hshield, rfl⟩
    exact ⟨text, rewritten, shielded, htext, checkReserved_eq_ok_iff.1 hfree, huse, hshield, rfl⟩
  · rintro ⟨text, rewritten, shielded, htext, hfree, huse, hshield, rfl⟩
    exact ⟨text, htext, (), checkReserved_eq_ok_iff.2 hfree, rewritten, huse, shielded, hshield,
      rfl⟩

end Source

namespace Compile

namespace Run

variable {α β : Type}

theorem result_bind_eq_ok_iff {r : Run α} {f : α → Run β} {b : β} :
    (r >>= f).result = .ok b ↔ ∃ a, r.result = .ok a ∧ (f a).result = .ok b := by
  cases h : r.result with
  | error e => simp [bind, andThen, h]
  | ok a => simp [bind, andThen, h]

@[simp] theorem result_ofExcept (r : Except Fault α) : (ofExcept r).result = r := rfl

@[simp] theorem result_note_bind (e : Event) (f : Unit → Run β) :
    (note e >>= f).result = (f ()).result := rfl

theorem result_pure_eq_ok_iff {a b : α} : (pure a : Run α).result = .ok b ↔ a = b :=
  Except.ok.injEq a b ▸ Iff.rfl

end Run

variable {compiler : Compiler} {source css out : List Char} {o : Options}

theorem result_restored_eq_ok_iff :
    (restored o css).result = .ok out ↔ restoreText o.markers css = .ok out := by
  have hreport (r : Restored) : (if !r.hits.isEmpty then do
      Run.note (.restored r.hits)
      pure (r.text o.markers) else pure (r.text o.markers) : Run (List Char)).result =
        .ok (r.text o.markers) := by
    split <;> rfl
  simp only [restored, restoreText, Run.result_bind_eq_ok_iff, Run.result_ofExcept,
    mapError_eq_ok_iff, bind_eq_ok_iff, pure_eq_ok_iff]
  refine exists_congr fun r => and_congr_right fun _ => ?_
  rw [hreport, Except.ok.injEq, eq_comm]

/-- A run succeeds if staging, the compiler and restoring do, and its result has no outer blanks. -/
theorem result_compile_eq_ok_iff : (compile compiler source o).result = .ok out ↔
    ∃ staged css text, stage source o = .ok staged ∧
      (compiler ⟨staged.text, staged.dialect, staged.includePaths, o⟩).result = .ok css ∧
        restoreText o.markers css = .ok text ∧ finish text = out := by
  simp only [compile, Run.result_bind_eq_ok_iff, Run.result_ofExcept, Run.result_note_bind,
    result_restored_eq_ok_iff, Run.result_pure_eq_ok_iff]
  constructor
  · rintro ⟨staged, hstaged, css, hcss, text, htext, hout⟩
    exact ⟨staged, css, text, hstaged, hcss, htext, hout⟩
  · rintro ⟨staged, css, text, hstaged, hcss, htext, hout⟩
    exact ⟨staged, hstaged, css, hcss, text, htext, hout⟩

end Compile

end Stencil
