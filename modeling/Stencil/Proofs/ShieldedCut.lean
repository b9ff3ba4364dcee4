import Stencil.Proofs.FormCut
import Stencil.Proofs.Numerals
import Stencil.Proofs.Success
import Stencil.Proofs.TokenCut
import Stencil.Shield.Basic

/-!
# Shielded texts in pieces

Shielding fails on an index of too many digits and on nothing else, and so does unshielding. What
they return is said here token by token and form by form. The forms that stand in for the tokens of
a text stand for these tokens in plain digits, whatever kinds were chosen: `woven_standsFor`. Where
they stand apart, unshielding finds them all: `unshield_of_apart`.
-/

namespace Stencil.Shield

open Stencil.Text Stencil.Number Stencil.Token

/-- What a form stands for: a token in plain digits, with the percent sign that the form covers. -/
def Form.standsFor (m : Markers) (f : Form) : List Char :=
  m.render (value f.digits) ++ f.kind.covered

/-- The forms for the tokens behind `before`, each with what is left of the gap behind it. -/
def shielded (m : Markers) (d : Dialect) (before : List Char)
    (tail : List (List Char × List Char)) : List (Form × List Char) :=
  visit m.token (fun p digits gap =>
    (⟨kindAt m d p, numeral (value digits)⟩, gap.drop (kindAt m d p).covered.length)) before tail

variable {m : Markers} {d : Dialect} {before digits gap s out : List Char} {p : Place}
  {tail more : List (List Char × List Char)}

@[simp] theorem shielded_nil : shielded m d before [] = [] := rfl

theorem shielded_cons :
    shielded m d before ((digits, gap) :: more) =
      (⟨kindAt m d ⟨before, gap ++ woven m.token more⟩, numeral (value digits)⟩,
        gap.drop (kindAt m d ⟨before, gap ++ woven m.token more⟩).covered.length) ::
          shielded m d (before ++ m.token digits ++ gap) more := rfl

theorem reads_numeral (k : Kind) (n : Nat) : Form.lexeme.Reads ⟨k, numeral n⟩ :=
  Form.reads_iff.2 ⟨numeral_ne_nil n, isDecimal_of_mem_numeral⟩

theorem exists_of_mem_shielded {x : Form × List Char} (hx : x ∈ shielded m d before tail) :
    ∃ q ∈ tail, x.1.digits = numeral (value q.1) := by
  induction tail generalizing before with
  | nil => simp at hx
  | cons q more ih =>
    obtain ⟨digits, gap⟩ := q
    rw [shielded_cons] at hx
    rcases List.mem_cons.1 hx with rfl | hx
    · exact ⟨_, List.mem_cons_self, rfl⟩
    · obtain ⟨q, hq, he⟩ := ih hx
      exact ⟨q, List.mem_cons_of_mem _ hq, he⟩

theorem covered_append_drop (hp : p.after = gap ++ woven m.token tail) :
    (kindAt m d p).covered ++ gap.drop (kindAt m d p).covered.length = gap := by
  unfold kindAt
  split_ifs with hpercent halone
  · rw [percentFollows, Bool.and_eq_true, startsWith_iff] at hpercent
    obtain ⟨⟨rest, hrest⟩, hclosed⟩ := hpercent
    rw [hp] at hrest hclosed
    obtain ⟨rest', rfl, -⟩ :=
      Markers.cons_of_not_opensAt Markers.opensAt_woven hrest (by simpa using hclosed)
    rfl
  · rfl
  · rfl

theorem formAt_eq_ok_iff {x : Form × List Char} : formAt m d p digits gap = .ok x ↔
    digits.length ≤ longest ∧
      x = (⟨kindAt m d p, numeral (value digits)⟩, gap.drop (kindAt m d p).covered.length) := by
  simp only [formAt, bind_eq_ok_iff, pure_eq_ok_iff, read_eq_ok_iff]
  constructor
  · rintro ⟨n, ⟨hle, rfl⟩, rfl⟩
    exact ⟨hle, rfl⟩
  · rintro ⟨hle, rfl⟩
    exact ⟨_, ⟨hle, rfl⟩, rfl⟩

theorem visit_formAt_eq_iff {forms : List (Form × List Char)} :
    visit m.token (formAt m d) before tail = forms.map .ok ↔
      (∀ q ∈ tail, q.1.length ≤ longest) ∧ forms = shielded m d before tail := by
  induction tail generalizing before forms with
  | nil => simp [visit, eq_comm]
  | cons q more ih =>
    obtain ⟨digits, gap⟩ := q
    rw [visit, List.forall_mem_cons, shielded_cons]
    cases forms with
    | nil => simp
    | cons x forms =>
      rw [List.map_cons, List.cons.injEq, List.cons.injEq, ih, formAt_eq_ok_iff]
      constructor
      · rintro ⟨⟨hle, hx⟩, hall, hf⟩
        exact ⟨⟨hle, hall⟩, hx, hf⟩
      · rintro ⟨⟨hle, hall⟩, hx, hf⟩
        exact ⟨⟨hle, hx⟩, hall, hf⟩

theorem shieldCut_eq_ok_iff {c : Cut Form} : shieldCut m d s = .ok c ↔
    (∀ q ∈ (m.cut s).tail, q.1.length ≤ longest) ∧
      c = ⟨(m.cut s).head, shielded m d (m.cut s).head (m.cut s).tail⟩ := by
  simp only [shieldCut, bind_eq_ok_iff, pure_eq_ok_iff, mapM_eq_ok_iff, List.map_id,
    visit_formAt_eq_iff]
  constructor
  · rintro ⟨forms, ⟨hall, rfl⟩, rfl⟩
    exact ⟨hall, rfl⟩
  · rintro ⟨hall, rfl⟩
    exact ⟨_, ⟨hall, rfl⟩, rfl⟩

theorem shield_eq_ok_iff : shield m d s = .ok out ↔
    (∀ q ∈ (m.cut s).tail, q.1.length ≤ longest) ∧
      out = (m.cut s).head ++
        woven Form.written (shielded m d (m.cut s).head (m.cut s).tail) := by
  simp only [shield, bind_eq_ok_iff, pure_eq_ok_iff, shieldCut_eq_ok_iff]
  constructor
  · rintro ⟨c, ⟨hall, rfl⟩, rfl⟩
    exact ⟨hall, rfl⟩
  · rintro ⟨hall, rfl⟩
    exact ⟨_, ⟨hall, rfl⟩, rfl⟩

theorem unshielded_eq_ok_iff {f : Form} {t : List Char} : f.unshielded m = .ok t ↔
    f.digits.length ≤ longest ∧ t = f.standsFor m := by
  simp only [Form.unshielded, bind_eq_ok_iff, pure_eq_ok_iff, read_eq_ok_iff]
  constructor
  · rintro ⟨n, ⟨hle, rfl⟩, rfl⟩
    exact ⟨hle, rfl⟩
  · rintro ⟨hle, rfl⟩
    exact ⟨_, ⟨hle, rfl⟩, rfl⟩

theorem map_unshielded_eq_iff {forms : List (Form × List Char)}
    {texts : List (List Char × List Char)} :
    forms.map (fun q => do return (← q.1.unshielded m, q.2)) = texts.map Except.ok ↔
      (∀ q ∈ forms, q.1.digits.length ≤ longest) ∧
        texts = forms.map fun q => (q.1.standsFor m, q.2) := by
  induction forms generalizing texts with
  | nil => simp [eq_comm]
  | cons q forms ih =>
    rw [List.map_cons, List.forall_mem_cons]
    cases texts with
    | nil => simp
    | cons t texts =>
      rw [List.map_cons, List.cons.injEq, ih, List.map_cons, List.cons.injEq]
      simp only [bind_eq_ok_iff, pure_eq_ok_iff, unshielded_eq_ok_iff]
      constructor
      · rintro ⟨⟨t, ⟨hle, rfl⟩, rfl⟩, hall, rfl⟩
        exact ⟨⟨hle, hall⟩, rfl, rfl⟩
      · rintro ⟨⟨hle, hall⟩, rfl, rfl⟩
        exact ⟨⟨_, ⟨hle, rfl⟩, rfl⟩, hall, rfl⟩

theorem unshield_eq_ok_iff : unshield m s = .ok out ↔
    (∀ q ∈ (Form.lexeme.cut s).tail, q.1.digits.length ≤ longest) ∧
      out = (Form.lexeme.cut s).weave (Form.standsFor m) := by
  simp only [unshield, Cut.traverse, bind_eq_ok_iff, pure_eq_ok_iff, mapM_eq_ok_iff,
    map_unshielded_eq_iff]
  constructor
  · rintro ⟨c, ⟨texts, ⟨hall, rfl⟩, rfl⟩, rfl⟩
    exact ⟨hall, by simp [Cut.weave, List.flatMap_map]⟩
  · rintro ⟨hall, rfl⟩
    exact ⟨_, ⟨_, ⟨hall, rfl⟩, rfl⟩, by simp [Cut.weave, List.flatMap_map]⟩

/-- The forms that stand in for tokens stand for these tokens in plain digits. -/
theorem woven_standsFor (m : Markers) (d : Dialect) (before : List Char)
    (tail : List (List Char × List Char)) :
    woven (Form.standsFor m) (shielded m d before tail) =
      woven (fun digits => m.render (value digits)) tail := by
  induction tail generalizing before with
  | nil => rfl
  | cons q more ih =>
    obtain ⟨digits, gap⟩ := q
    rw [shielded_cons, woven_cons, woven_cons, ih, Form.standsFor, value_numeral,
      List.append_assoc, ← List.append_assoc (Kind.covered _), covered_append_drop rfl]

def respelled (m : Markers) (s : List Char) : List Char :=
  (m.cut s).weave fun digits => m.render (value digits)

/-- Where the forms of a shielded text stand apart, nothing is lost but the spelling of indices. -/
theorem unshield_of_apart (h : shield m d s = .ok out)
    (hapart : Form.lexeme.Apart (m.cut s).head (shielded m d (m.cut s).head (m.cut s).tail)) :
    unshield m out = .ok (respelled m s) := by
  obtain ⟨hle, rfl⟩ := shield_eq_ok_iff.1 h
  have hcut := Form.rigid_lexeme.cut_woven hapart
  rw [Form.lexeme_written] at hcut
  rw [unshield_eq_ok_iff, hcut, Cut.weave_eq, woven_standsFor]
  refine ⟨fun q hq => ?_, rfl⟩
  obtain ⟨q', hq', he⟩ := exists_of_mem_shielded hq
  have hreads := (m.rigid_lexeme.apart_cut s).reads q' hq'
  rw [he]
  exact (length_numeral_value_le (m.reads_iff.1 hreads).1).trans (hle q' hq')

end Stencil.Shield
