import Mathlib.Control.Monad.Basic
import Stencil.Proofs.ReservedNames

/-!
# When unshielding undoes shielding

The check for reserved names looks at a source before its tokens are shielded. It does not see a
name that lacks its last underscores, and such a name in front of a token takes them from the form
that is put there. On sources that pass the check this is the only way in which unshielding fails to
undo shielding: `unshield_shield_iff`.
-/

namespace Stencil.Shield

open Stencil.Text Stencil.Number Stencil.Token

/-- Whether a text ends in a reserved name of an identifier but for one underscore or two. -/
def Unfinished (gap : List Char) : Prop :=
  ∃ (k : Kind) (digits under : List Char), k ≠ .statement ∧ digits ≠ [] ∧
    (∀ c ∈ digits, isDecimal c = true) ∧ (under = [] ∨ under = ['_']) ∧
      k.stem ++ (digits ++ under) <:+ gap

/-- The gaps that have a lexeme right behind them. -/
def gapsBefore {α : Type} : List Char → List (α × List Char) → List (List Char)
  | _, [] => []
  | gap, (_, next) :: more => gap :: gapsBefore next more

variable {m : Markers} {d : Dialect} {before gap rest s text out : List Char} {f : Form}
  {tail more : List (List Char × List Char)}

/-! ### Unfinished names -/

theorem Kind.left_eq_stem {k : Kind} (h : k ≠ .statement) : k.left = k.stem := by
  cases k with
  | plain => rfl
  | percent => rfl
  | statement => exact absurd rfl h

theorem Kind.right_eq {k : Kind} (h : k ≠ .statement) : k.right = ['_', '_'] := by
  cases k with
  | plain => rfl
  | percent => rfl
  | statement => exact absurd rfl h

theorem unfinished_covered_append (k : Kind) : Unfinished (k.covered ++ gap) ↔ Unfinished gap := by
  constructor
  · rintro ⟨l, digits, under, hl, hne, hdec, hunder, hu⟩
    refine ⟨l, digits, under, hl, hne, hdec, hunder, ?_⟩
    cases k with
    | plain => exact hu
    | statement => exact hu
    | percent =>
      rcases List.suffix_cons_iff.1 hu with h | hu
      · simp [Kind.stem] at h
      · exact hu
  · rintro ⟨l, digits, under, hl, hne, hdec, hunder, hu⟩
    exact ⟨l, digits, under, hl, hne, hdec, hunder, hu.trans (List.suffix_append _ _)⟩

theorem behindLast_append_of_forall {p : Char → Bool} {x : List Char} (hx : ∀ c ∈ x, p c = false)
    (b : List Char) : behindLast p (b ++ x) = behindLast p b ++ x := by
  have hrev : ∀ c ∈ x.reverse, (!p c) = true := fun c hc => by
    simp [hx c (List.mem_reverse.1 hc)]
  rw [behindLast, behindLast, List.reverse_append, List.takeWhile_append_of_pos hrev,
    List.reverse_append, List.reverse_reverse]

theorem blank_of_standsAlone {b x after : List Char}
    (h : standsAlone d ⟨b ++ x, after⟩ = true)
    (hx : ∀ c ∈ x, isBoundary c = false ∧ c ≠ '\n') : ∀ c ∈ x, isBlank c = true := by
  intro c hc
  cases d with
  | block =>
    have hb : allBlank (behindLast isBoundary (b ++ x)) = true := by
      simp only [standsAlone, aloneInBlock, Bool.and_eq_true] at h
      exact h.1.1
    rw [behindLast_append_of_forall fun c hc => (hx c hc).1] at hb
    exact List.all_eq_true.1 hb c (List.mem_append_right _ hc)
  | indented =>
    have hb : allBlank (behindLast (· == '\n') (b ++ x)) = true := by
      simp only [standsAlone, aloneOnLine, Bool.and_eq_true] at h
      exact h.1.1
    rw [behindLast_append_of_forall fun c hc => by simp [(hx c hc).2]] at hb
    exact List.all_eq_true.1 hb c (List.mem_append_right _ hc)

theorem stem_inside (k : Kind) : ∀ c ∈ k.stem, isBoundary c = false ∧ c ≠ '\n' := by
  have h : k.stem.all (fun c => !isBoundary c && c != '\n') = true := by cases k <;> decide
  intro c hc
  simpa using List.all_eq_true.1 h c hc

theorem decimal_inside {c : Char} (h : isDecimal c = true) : isBoundary c = false ∧ c ≠ '\n' := by
  constructor
  · cases hb : isBoundary c with
    | false => rfl
    | true =>
      simp only [isBoundary, Bool.or_eq_true, beq_iff_eq] at hb
      rcases hb with (rfl | rfl) | rfl <;> exact absurd h (by decide)
  · rintro rfl
    exact absurd h (by decide)

/-- A token behind an unfinished name stands for no statement. -/
theorem Unfinished.kindAt_ne_statement (h : Unfinished gap) (b after : List Char) :
    kindAt m d ⟨b ++ gap, after⟩ ≠ .statement := by
  obtain ⟨k, digits, under, -, -, hdec, hunder, ⟨front, rfl⟩⟩ := h
  have hinside : ∀ c ∈ k.stem ++ (digits ++ under), isBoundary c = false ∧ c ≠ '\n' := by
    intro c hc
    rcases List.mem_append.1 hc with hc | hc
    · exact stem_inside k c hc
    · rcases List.mem_append.1 hc with hc | hc
      · exact decimal_inside (hdec c hc)
      · rcases hunder with rfl | rfl
        · simp at hc
        · obtain rfl := List.mem_singleton.1 hc
          decide
  unfold kindAt
  split_ifs with hpercent halone
  · simp
  · rw [← List.append_assoc] at halone
    have := blank_of_standsAlone halone hinside '_' (by simp [Kind.stem])
    exact absurd this (by decide)
  · simp

theorem Form.written_of_ne_statement (h : f.kind ≠ .statement) :
    ∃ w, f.written = '_' :: '_' :: 's' :: w := by
  rw [Form.written, Kind.left_eq_stem h]
  exact ⟨_, rfl⟩

theorem Form.written_of_statement (h : f.kind = .statement) : ∃ w, f.written = '/' :: w := by
  rw [Form.written, h]
  exact ⟨_, rfl⟩

/-- What a form gives to a name in front of it: one underscore or two, if the form is an
identifier. -/
theorem Form.right_of_overlap {k : Kind} {y z : List Char}
    (h : y ++ f.written = k.right ++ z) :
    (k ≠ .statement ∧ (y = [] ∨ y = ['_'])) ∨ ∃ y', y = '_' :: '_' :: y' := by
  obtain ⟨b, hb⟩ := k.right_eq_append
  have hk : k ≠ .statement ∨ b = ['*', '/'] := by
    cases k with
    | plain => exact .inl (by simp)
    | percent => exact .inl (by simp)
    | statement =>
      simp only [Kind.right, List.cons.injEq, true_and] at hb
      exact .inr hb.symm
  rw [hb] at h
  cases y with
  | nil =>
    by_cases hf : f.kind = .statement
    · obtain ⟨w, hw⟩ := f.written_of_statement hf
      simp [hw] at h
    · obtain ⟨w, hw⟩ := Form.written_of_ne_statement hf
      rcases hk with hk | rfl
      · exact .inl ⟨hk, .inl rfl⟩
      · simp [hw] at h
  | cons c y =>
    obtain ⟨rfl, hmore⟩ := List.cons.inj h
    cases y with
    | nil =>
      by_cases hf : f.kind = .statement
      · obtain ⟨w, hw⟩ := f.written_of_statement hf
        simp [hw] at h
      · obtain ⟨w, hw⟩ := Form.written_of_ne_statement hf
        rcases hk with hk | rfl
        · exact .inl ⟨hk, .inr rfl⟩
        · simp [hw] at h
    | cons c y =>
      obtain ⟨rfl, -⟩ := List.cons.inj hmore
      exact .inr ⟨y, rfl⟩

/-- In front of a form a gap without reserved names is silent unless it ends in a name that the form
would finish. -/
theorem silent_written_iff (hfree : reserved? gap = none)
    (hkind : Unfinished gap → f.kind ≠ .statement) :
    Form.lexeme.Silent gap f.written ↔ ¬ Unfinished gap := by
  constructor
  · intro h hunf
    obtain ⟨w, hw⟩ := Form.written_of_ne_statement (hkind hunf)
    obtain ⟨k, digits, under, hk, hne, hdec, hunder, hu⟩ := hunf
    have hread : ∃ z, k.stem ++ (digits ++ under) ++ f.written =
        (Form.mk k digits).written ++ z := by
      rw [hw, Form.written, Kind.left_eq_stem hk, Kind.right_eq hk]
      rcases hunder with rfl | rfl
      · exact ⟨'s' :: w, by simp⟩
      · exact ⟨'_' :: 's' :: w, by simp⟩
    obtain ⟨z, hz⟩ := hread
    have hsome := Form.read?_eq_some_iff.2 ⟨hz, hne, hdec⟩
    have hnone := h _ (by simp [Kind.stem]) hu
    rw [hsome] at hnone
    exact absurd hnone (by simp)
  · intro hunf u hne hu
    cases hr : Form.lexeme.read? (u ++ f.written) with
    | none => rfl
    | some p =>
      exfalso
      obtain ⟨g, z⟩ := p
      obtain ⟨-, hdigits, hdec⟩ := Form.read?_eq_some_iff.1 hr
      rw [← List.append_nil f.written] at hr
      obtain ⟨y, rfl, hy⟩ := Form.begins_behind_digits hne hr
      rw [List.append_nil] at hy
      rcases Form.right_of_overlap hy with ⟨hk, hunder⟩ | ⟨y, rfl⟩
      · rw [Kind.left_eq_stem hk] at hu
        exact hunf ⟨g.kind, g.digits, y, hk, hdigits, hdec, hunder, hu⟩
      · -- The whole name stands in the gap.
        obtain ⟨a, ha⟩ := g.kind.left_eq_append_stem
        rw [ha, List.append_assoc] at hu
        exact reserved?_append_stem g.kind a y hdigits hdec
          (reserved?_of_inside hfree hu.isInfix)

/-! ### The round trip -/

theorem gapsBefore_covered (k : Kind) {next next' : List Char} {α : Type} {l : List (α × List Char)}
    (h : k.covered ++ next' = next) :
    (∀ g ∈ gapsBefore next' l, ¬ Unfinished g) ↔ ∀ g ∈ gapsBefore next l, ¬ Unfinished g := by
  cases l with
  | nil => simp [gapsBefore]
  | cons q more =>
    simp only [gapsBefore, List.forall_mem_cons, ← h, unfinished_covered_append]

/-- On a text without reserved names the forms stand apart exactly if no gap in front of one ends in
an unfinished name. -/
theorem apart_shielded_iff (b : List Char) (hfree : reserved? (gap ++ woven m.token tail) = none) :
    Form.lexeme.Apart gap (shielded m d (b ++ gap) tail) ↔
      ∀ g ∈ gapsBefore gap tail, ¬ Unfinished g := by
  induction tail generalizing gap b with
  | nil =>
    rw [woven_nil, List.append_nil] at hfree
    simpa [Lexeme.Apart, gapsBefore] using silent_nil_iff.2 (formless_of_reserved? hfree)
  | cons q more ih =>
    obtain ⟨digits, next⟩ := q
    have hgap : reserved? gap = none :=
      reserved?_of_inside hfree (List.prefix_append gap _).isInfix
    rw [shielded_cons, gapsBefore, List.forall_mem_cons, Lexeme.Apart]
    generalize hk : kindAt m d ⟨b ++ gap, next ++ woven m.token more⟩ = k
    have hcovered : k.covered ++ next.drop k.covered.length = next := by
      rw [← hk]
      exact covered_append_drop rfl
    have hsilent : Form.lexeme.Silent gap (Form.lexeme.written ⟨k, numeral (value digits)⟩) ↔
        ¬ Unfinished gap :=
      silent_written_iff hgap fun h => by
        rw [← hk]
        exact h.kindAt_ne_statement b _
    have hbefore : b ++ gap ++ m.token digits ++ next =
        b ++ gap ++ m.token digits ++ k.covered ++ next.drop k.covered.length := by
      rw [List.append_assoc _ k.covered, hcovered]
    have hnext : reserved? (next.drop k.covered.length ++ woven m.token more) = none := by
      refine reserved?_of_inside hfree ⟨gap ++ m.token digits ++ k.covered, [], ?_⟩
      rw [List.append_nil, woven_cons]
      conv => rhs; rw [← hcovered]
      simp
    rw [hsilent, hbefore, ih _ hnext, gapsBefore_covered k hcovered]
    exact and_congr_right fun _ => and_iff_right (reads_numeral k _)

theorem not_token_in_gap {g u y rest : List Char} {n : Nat}
    (hs : m.lexeme.Silent (g ++ u) rest) (hu : u ≠ []) : m.render n ++ y ≠ u ++ rest := by
  intro h
  have hnone := hs u hu (List.suffix_append g u)
  rw [← h] at hnone
  have hread := m.read?_token (numeral_ne_nil n) isDecimal_of_mem_numeral y
  exact absurd (hread.symm.trans hnone) (by simp)

/-- If the forms that are read behind a gap and in it stand for what is there, none of them begins
inside of the gap. -/
theorem silent_of_weave_eq {forms : List Char} (hs : m.lexeme.Silent gap rest)
    (h : (Form.lexeme.cut (gap ++ forms)).weave (Form.standsFor m) = gap ++ rest) :
    Form.lexeme.Silent gap forms := by
  rcases Form.lexeme.silent_or_cut gap forms with hsilent | ⟨g, u, f, z, tail, rfl, hu, hc⟩
  · exact hsilent
  · rw [hc, Cut.weave_eq, woven_cons, List.append_assoc, Form.standsFor, List.append_assoc] at h
    exact absurd (List.append_cancel_left h) (not_token_in_gap hs hu)

/-- If unshielding undoes shielding, it has read the forms that were written. -/
theorem apart_of_weave_eq (hplain : ∀ q ∈ tail, ∃ n, q.1 = numeral n)
    (hs : m.lexeme.Apart gap tail)
    (h : (Form.lexeme.cut (gap ++ woven Form.written (shielded m d before tail))).weave
      (Form.standsFor m) = gap ++ woven m.token tail) :
    Form.lexeme.Apart gap (shielded m d before tail) := by
  have hgap : m.lexeme.Silent gap (woven m.token tail) :=
    (m.rigid_lexeme.silent_woven_iff hs.reads).2 hs.silent
  have hsilent := silent_of_weave_eq hgap h
  induction tail generalizing gap before with
  | nil => exact hsilent
  | cons q more ih =>
    obtain ⟨digits, next⟩ := q
    obtain ⟨-, -, hnext⟩ := hs
    obtain ⟨⟨n, rfl⟩, hmore⟩ := List.forall_mem_cons.1 hplain
    rw [shielded_cons, value_numeral] at h hsilent ⊢
    generalize hk : kindAt m d ⟨before, next ++ woven m.token more⟩ = k at h hsilent ⊢
    have hcovered : k.covered ++ next.drop k.covered.length = next := by
      rw [← hk]
      exact covered_append_drop rfl
    have hsplit : next ++ woven m.token more =
        k.covered ++ (next.drop k.covered.length ++ woven m.token more) := by
      rw [← List.append_assoc, hcovered]
    have hreads := reads_numeral k n
    -- The form is read, and what follows it stands for what follows the token.
    have hrest : (Form.lexeme.cut (next.drop k.covered.length ++ woven Form.written
        (shielded m d (before ++ m.token (numeral n) ++ next) more))).weave (Form.standsFor m) =
          next.drop k.covered.length ++ woven m.token more := by
      rw [Lexeme.cut_append hsilent, woven_cons, ← Form.lexeme_written,
        Form.lexeme.cut_of_read? (hreads _), woven_cons, hsplit] at h
      simpa [Cut.weave_eq, Cut.consLexeme, Form.standsFor, Markers.render] using h
    have hs := hnext.replace (hnext.silent.of_suffix (List.drop_suffix k.covered.length next))
    have hgap := (m.rigid_lexeme.silent_woven_iff hs.reads).2 hs.silent
    rw [woven_cons, ← Form.lexeme_written] at hsilent
    exact ⟨(Form.rigid_lexeme.silent_append_iff hreads).1 hsilent, hreads,
      ih hmore hs hrest hgap (silent_of_weave_eq hgap hrest)⟩

theorem woven_render (hplain : ∀ q ∈ tail, ∃ n, q.1 = numeral n) :
    woven (fun digits => m.render (value digits)) tail = woven m.token tail := by
  induction tail with
  | nil => rfl
  | cons q more ih =>
    obtain ⟨digits, gap⟩ := q
    obtain ⟨⟨n, rfl⟩, hmore⟩ := List.forall_mem_cons.1 hplain
    rw [woven_cons, woven_cons, ih hmore, value_numeral, Markers.render]

/-- A text without reserved names, whose tokens spell their indices in plain digits, comes back from
unshielding exactly if no gap in front of a token ends in an unfinished name. -/
theorem unshield_shield_iff (hfree : reserved? text = none)
    (hplain : ∀ digits ∈ (m.cut text).lexemes, ∃ n, digits = numeral n)
    (h : shield m d text = .ok out) :
    unshield m out = .ok text ↔
      ∀ gap ∈ gapsBefore (m.cut text).head (m.cut text).tail, ¬ Unfinished gap := by
  obtain ⟨hle, rfl⟩ := shield_eq_ok_iff.1 h
  have hplain : ∀ q ∈ (m.cut text).tail, ∃ n, q.1 = numeral n := fun q hq =>
    hplain q.1 (List.mem_map_of_mem hq)
  have htext : (m.cut text).head ++ woven m.token (m.cut text).tail = text :=
    m.lexeme.weave_cut text
  have hiff := apart_shielded_iff (d := d) [] (htext ▸ hfree)
  rw [unshield_eq_ok_iff, ← hiff, List.nil_append]
  constructor
  · rintro ⟨-, he⟩
    exact apart_of_weave_eq hplain (m.rigid_lexeme.apart_cut text) (he.symm.trans htext.symm)
  · intro hapart
    have hcut := Form.rigid_lexeme.cut_woven hapart
    rw [Form.lexeme_written] at hcut
    rw [hcut, Cut.weave_eq, woven_standsFor, woven_render hplain, htext]
    refine ⟨fun q hq => ?_, rfl⟩
    obtain ⟨q', hq', he⟩ := exists_of_mem_shielded hq
    obtain ⟨n, hn⟩ := hplain q' hq'
    rw [he, hn, value_numeral, ← hn]
    exact hle q' hq'

def separatedName : List Char :=
  "a: __sjx_pct_1 %%styled-jsx-placeholder-5%%%;".toList

theorem unshield_shield_iff_separatedName :
    reserved? separatedName = none ∧
      (∀ digits ∈ (Markers.standard.cut separatedName).lexemes, ∃ n, digits = numeral n) ∧
      shield .standard .block separatedName = .ok "a: __sjx_pct_1 __sjx_pct_5__;".toList ∧
      (unshield .standard "a: __sjx_pct_1 __sjx_pct_5__;".toList = .ok separatedName ↔
        ∀ gap ∈ gapsBefore (Markers.standard.cut separatedName).head
          (Markers.standard.cut separatedName).tail, ¬ Unfinished gap) := by
  have hfree : reserved? separatedName = none := by decide +kernel
  have hdigits : (Markers.standard.cut separatedName).lexemes = [numeral 5] := by decide +kernel
  have hplain : ∀ digits ∈ (Markers.standard.cut separatedName).lexemes,
      ∃ n, digits = numeral n := by
    rw [hdigits]
    exact List.forall_mem_singleton.2 ⟨5, rfl⟩
  have hshield : shield .standard .block separatedName =
      .ok "a: __sjx_pct_1 __sjx_pct_5__;".toList := by decide +kernel
  exact ⟨hfree, hplain, hshield, unshield_shield_iff hfree hplain hshield⟩

def unfinishedName : List Char :=
  "__sjx_ph_1%%styled-jsx-placeholder-5%%".toList

/-- The name takes the underscores of the form, and another token comes back. -/
theorem unshield_shield_unfinishedName :
    reserved? unfinishedName = none ∧
      (Markers.standard.cut unfinishedName).lexemes = [numeral 5] ∧
      ∀ d, shield .standard d unfinishedName = .ok "__sjx_ph_1__sjx_ph_5__".toList ∧
        unshield .standard "__sjx_ph_1__sjx_ph_5__".toList =
          .ok "%%styled-jsx-placeholder-1%%sjx_ph_5__".toList ∧
        unshield .standard "__sjx_ph_1__sjx_ph_5__".toList ≠ .ok unfinishedName := by
  refine ⟨by decide +kernel, by decide +kernel, fun d => ?_⟩
  cases d <;> decide +kernel

end Stencil.Shield
