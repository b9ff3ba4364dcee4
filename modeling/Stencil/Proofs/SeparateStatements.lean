import Stencil.Proofs.Formless
import Stencil.Proofs.RestoredTokens
import Stencil.Proofs.StandardTokens
import Stencil.Proofs.StatementEnds

/-!
# Statements one by one

Restoring and shielding may be done statement by statement: where a text ends with a semicolon or a
brace, what is returned for it and for the text behind it, written one behind the other, is what is
returned for the whole. No lexeme and no question that is asked reaches across that character.
-/

namespace Stencil.Token

variable {α : Type} {L : Lexeme α} {c : Char}

theorem Lexeme.Rigid.forall_tail_append_cons_iff (hL : L.Rigid) (hc : L.Avoids c) (P : α → Prop)
    (s t : List Char) :
    (∀ q ∈ (L.cut (s ++ c :: t)).tail, P q.1) ↔
      (∀ q ∈ (L.cut s).tail, P q.1) ∧ ∀ q ∈ (L.cut t).tail, P q.1 := by
  simp only [← L.forall_mem_lexemes_iff, hL.lexemes_append_cons hc, List.forall_mem_append]

end Stencil.Token

namespace Stencil.Shield

open Stencil.Text Stencil.Number Stencil.Token Stencil.Adjacency

variable {m : Markers} {c : Char} {a b out : List Char}

theorem not_isDecimal_of_isBoundary (hc : isBoundary c = true) : isDecimal c = false := by
  rcases eq_of_isBoundary hc with rfl | rfl | rfl <;> decide

theorem not_mem_standard_opening (hc : isBoundary c = true) :
    c ∉ Markers.standard.opening := by
  have hclean : Markers.standard.opening.any isBoundary = false := by decide +kernel
  exact fun hmem => List.any_eq_false.1 hclean c hmem hc

theorem standard_avoids_of_isBoundary (hc : isBoundary c = true) :
    Markers.standard.lexeme.Avoids c :=
  Markers.standard_avoids (by decide +kernel) hc (not_isDecimal_of_isBoundary hc)

theorem Form.avoids_of_isBoundary (hc : isBoundary c = true) : Form.lexeme.Avoids c := by
  have hsides : ∀ k : Kind, c ∉ k.left ∧ c ∉ k.right := by
    intro k
    rcases eq_of_isBoundary hc with rfl | rfl | rfl <;> cases k <;> decide
  intro f hf
  exact Form.not_mem_of_sides hsides (not_isDecimal_of_isBoundary hc) hf

theorem unshield_append_cons_iff (hc : Form.lexeme.Avoids c) :
    unshield m (a ++ c :: b) = .ok out ↔
      ∃ x y, unshield m a = .ok x ∧ unshield m b = .ok y ∧ out = x ++ c :: y := by
  have hforms := Form.rigid_lexeme.forall_tail_append_cons_iff hc
    (fun f => f.digits.length ≤ longest) a b
  have htext : (Form.lexeme.cut (a ++ c :: b)).weave (Form.standsFor m) =
      (Form.lexeme.cut a).weave (Form.standsFor m) ++
        c :: (Form.lexeme.cut b).weave (Form.standsFor m) := by
    rw [Form.rigid_lexeme.cut_append_cons hc, Cut.weave_append, Cut.weave_consChar]
  simp only [unshield_eq_ok_iff, hforms, htext]
  constructor
  · rintro ⟨⟨ha, hb⟩, rfl⟩
    exact ⟨_, _, ⟨ha, rfl⟩, ⟨hb, rfl⟩, rfl⟩
  · rintro ⟨x, y, ⟨ha, rfl⟩, ⟨hb, rfl⟩, rfl⟩
    exact ⟨⟨ha, hb⟩, rfl⟩

/-- Whether no index of a text has too many digits. -/
def Short (s : List Char) : Prop :=
  ∀ q ∈ (Markers.standard.cut s).tail, q.1.length ≤ longest

/-- The text with a form for every token, however many digits the tokens have. -/
def shieldedText (m : Markers) (d : Dialect) (s : List Char) : List Char :=
  (m.cut s).head ++ woven Form.written (shielded m d (m.cut s).head (m.cut s).tail)

theorem shieldedText_eq_toldFrom (m : Markers) (d : Dialect) (s : List Char) :
    shieldedText m d s =
      toldFrom m.token (kindAt m d) (fun k digits => (⟨k, numeral (value digits)⟩ : Form))
        (fun k gap => gap.drop k.covered.length) Form.written [] id (m.cut s) := rfl

theorem shield_eq_ok_iff_shieldedText {d : Dialect} {s : List Char} : shield m d s = .ok out ↔
    (∀ q ∈ (m.cut s).tail, q.1.length ≤ longest) ∧ out = shieldedText m d s :=
  shield_eq_ok_iff

variable (hc : isBoundary c = true) (hm : m.lexeme.Avoids c) (hopening : c ∉ m.opening)
include hc hm hopening

theorem shieldedText_append_cons (a b : List Char) :
    shieldedText m .block (a ++ c :: b) =
      shieldedText m .block (a ++ [c]) ++ shieldedText m .block b := by
  rw [shieldedText_eq_toldFrom, shieldedText_eq_toldFrom, shieldedText_eq_toldFrom]
  refine m.rigid_lexeme.toldFrom_append_cons (stopsAt_kindAt hc hopening) ?_ hm a b
  intro k x t
  apply drop_append_cons
  cases k <;> simp [Kind.covered]

/-- A text is shielded statement by statement. -/
theorem shield_append_cons_iff :
    shield m .block (a ++ c :: b) = .ok out ↔
      ∃ x y, shield m .block (a ++ [c]) = .ok x ∧ shield m .block b = .ok y ∧ out = x ++ y := by
  have htokens (b : List Char) := m.rigid_lexeme.forall_tail_append_cons_iff hm
    (fun digits => digits.length ≤ longest) a b
  have hnone : ∀ q ∈ (m.lexeme.cut []).tail, q.1.length ≤ longest := by simp
  simp only [shield_eq_ok_iff_shieldedText, shieldedText_append_cons hc hm hopening a b]
  constructor
  · rintro ⟨hall, rfl⟩
    obtain ⟨ha, hb⟩ := (htokens b).1 hall
    exact ⟨_, _, ⟨(htokens []).2 ⟨ha, hnone⟩, rfl⟩, ⟨hb, rfl⟩, rfl⟩
  · rintro ⟨x, y, ⟨ha, rfl⟩, ⟨hb, rfl⟩, rfl⟩
    exact ⟨(htokens b).2 ⟨((htokens []).1 ha).1, hb⟩, rfl⟩

end Stencil.Shield

namespace Stencil.Adjacency

open Stencil.Text Stencil.Number Stencil.Token Stencil.Shield

variable {m : Markers} {c : Char} {a b out : List Char} {rules : List Rule}

theorem apply_append_cons (hc : isBoundary c = true) (w : Rewrite) (x t : List Char) :
    w.apply (x ++ c :: t) = w.apply (x ++ [c]) ++ t := by
  have hspace (t : List Char) : (x ++ c :: t).takeWhile isStyleBlank = x.takeWhile isStyleBlank :=
    takeWhile_append_cons (not_of_isBoundary rfl hc) x t
  have hremoved : w.removed (x ++ c :: t) = w.removed (x ++ [c]) := by
    cases w <;> simp only [Rewrite.removed, hspace]
  have hle : w.removed (x ++ [c]) ≤ x.length + 1 := by
    have hshort := (List.takeWhile_prefix isStyleBlank (l := x)).length_le
    cases w <;> simp only [Rewrite.removed, hspace] <;> omega
  rw [Rewrite.apply, Rewrite.apply, hremoved, drop_append_cons hle, List.append_assoc]

theorem settled_eq_told (m : Markers) (rules : List Rule) (before : List Char)
    (tail : List (List Char × List Char)) :
    settled m rules before tail =
      told m.token (chosen m rules) (fun _ digits => digits) Rewrite.apply before tail := by
  induction tail generalizing before with
  | nil => rfl
  | cons q more ih =>
    obtain ⟨digits, gap⟩ := q
    rw [settled_cons, told_cons, ih]

section

variable (hc : isBoundary c = true) (hm : m.lexeme.Avoids c) (hopening : c ∉ m.opening)
include hc hm hopening

theorem settledText_append_cons (rules : List Rule) (a b : List Char) :
    settledText m rules (a ++ c :: b) =
      settledText m rules (a ++ [c]) ++ settledText m rules b := by
  simp only [settledText_eq, settled_eq_told]
  exact m.rigid_lexeme.toldFrom_append_cons (stopsAt_chosen hc hopening rules)
    (apply_append_cons hc) hm a b

theorem restoreText_append_cons_iff :
    restoreText m (a ++ c :: b) rules = .ok out ↔
      ∃ x y, restoreText m (a ++ [c]) rules = .ok x ∧ restoreText m b rules = .ok y ∧
        out = x ++ y := by
  have hforms := Form.avoids_of_isBoundary hc
  have hnil : unshield m [] = .ok [] := unshield_of_formless m (formless_of_not_mem (by simp))
  simp only [restoreText_eq_ok_iff, unshield_append_cons_iff hforms]
  constructor
  · rintro ⟨_, ⟨x, y, hx, hy, rfl⟩, rfl⟩
    exact ⟨_, _, ⟨_, ⟨x, [], hx, hnil, rfl⟩, rfl⟩, ⟨y, hy, rfl⟩,
      settledText_append_cons hc hm hopening rules x y⟩
  · rintro ⟨_, _, ⟨_, ⟨x, z, hx, hz, rfl⟩, rfl⟩, ⟨y, hy, rfl⟩, rfl⟩
    obtain rfl : [] = z := Except.ok.inj (hnil.symm.trans hz)
    exact ⟨_, ⟨x, y, hx, hy, rfl⟩, settledText_append_cons hc hm hopening rules x y⟩

end

/-- A text that ends with a semicolon or a brace is handled apart from the text behind it, whatever
rules are used: the whole is restored exactly if both parts are, and then to what they are restored
to. So it is with shielding among blocks. -/
theorem restoreText_shield_append (hc : isBoundary c = true) (a b : List Char)
    (rules : List Rule) :
    (∀ out, restoreText .standard (a ++ [c] ++ b) rules = .ok out ↔
      ∃ x y, restoreText .standard (a ++ [c]) rules = .ok x ∧
        restoreText .standard b rules = .ok y ∧ out = x ++ y) ∧
    ∀ out, shield .standard .block (a ++ [c] ++ b) = .ok out ↔
      ∃ x y, shield .standard .block (a ++ [c]) = .ok x ∧
        shield .standard .block b = .ok y ∧ out = x ++ y := by
  have hclean : Markers.standard.opening.any isBoundary = false := by decide +kernel
  have hopening : c ∉ Markers.standard.opening :=
    fun hmem => List.any_eq_false.1 hclean c hmem hc
  have havoids := Markers.standard_avoids hclean hc (not_isDecimal_of_isBoundary hc)
  rw [List.append_assoc, List.singleton_append]
  constructor
  · intro out
    exact restoreText_append_cons_iff hc havoids hopening
  · intro out
    exact shield_append_cons_iff hc havoids hopening

theorem restoreText_shield_append_mediaSheet :
    isBoundary '{' = true ∧
      restoreText .standard "@media (width: __sjx_ph_1__ px)  \x7b".toList =
        .ok "@media (width: %%styled-jsx-placeholder-1%%px)  \x7b".toList ∧
      restoreText .standard "a:not(__sjx_ph_2__  b) \x7b top: __sjx_ph_3__ px \x7d".toList =
        .ok ("a:not(%%styled-jsx-placeholder-2%%  b) " ++
          "\x7b top: %%styled-jsx-placeholder-3%%px \x7d").toList ∧
      restoreText .standard ("@media (width: __sjx_ph_1__ px)  ".toList ++ ['{'] ++
          "a:not(__sjx_ph_2__  b) \x7b top: __sjx_ph_3__ px \x7d".toList) =
        .ok ("@media (width: %%styled-jsx-placeholder-1%%px)  \x7b".toList ++
          ("a:not(%%styled-jsx-placeholder-2%%  b) " ++
            "\x7b top: %%styled-jsx-placeholder-3%%px \x7d").toList) := by
  have ha : restoreText .standard ("@media (width: __sjx_ph_1__ px)  ".toList ++ ['{']) =
      .ok "@media (width: %%styled-jsx-placeholder-1%%px)  \x7b".toList := by decide +kernel
  have hb : restoreText .standard "a:not(__sjx_ph_2__  b) \x7b top: __sjx_ph_3__ px \x7d".toList =
      .ok ("a:not(%%styled-jsx-placeholder-2%%  b) " ++
        "\x7b top: %%styled-jsx-placeholder-3%%px \x7d").toList := by decide +kernel
  have hwhole := (restoreText_shield_append (c := '{') (by decide)
    "@media (width: __sjx_ph_1__ px)  ".toList
    "a:not(__sjx_ph_2__  b) \x7b top: __sjx_ph_3__ px \x7d".toList Rule.table).1
  exact ⟨by decide, ha, hb, (hwhole _).2 ⟨_, _, ha, hb, rfl⟩⟩

end Stencil.Adjacency
