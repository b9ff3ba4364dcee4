import Stencil.Proofs.CompiledRuns
import Stencil.Proofs.UseStretches

/-!
# Tokens through a whole run

With a compiler that changes nothing, what becomes of the tokens of a source is what the stages of a
run make of them. Use rules are rewritten around the tokens, restoring moves blanks and the outer
blanks go: all this leaves the tokens alone. Shielding alone does not, for it reads an index as a
number. Unless a token stands right behind an unfinished name, every token comes back in its place
with its index in plain digits, so the tokens are those of the source exactly if the source spells
every index so: `tokens_compile`.
-/

namespace Stencil.Compile

open Stencil.Text Stencil.Number Stencil.Token Stencil.Source Stencil.Shield Stencil.Adjacency

variable {compiler : Compiler} {source text out css : List Char} {o : Options} {d : Dialect}

theorem map_render_eq_map_token_iff {l : List (List Char)} :
    l.map (fun digits => Markers.standard.render (value digits)) = l.map Markers.standard.token ↔
      ∀ digits ∈ l, ∃ n, digits = numeral n := by
  rw [List.map_inj_left]
  refine forall₂_congr fun digits _ => ⟨fun h => ⟨value digits, ?_⟩, ?_⟩
  · rw [Markers.render, Markers.token, Markers.token] at h
    exact (List.append_cancel_left (List.append_cancel_right h)).symm
  · rintro ⟨n, rfl⟩
    rw [value_numeral, Markers.render]

theorem tokens_respelled (s : List Char) : Markers.standard.tokens (respelled .standard s) =
    (Markers.standard.cut s).lexemes.map fun digits => Markers.standard.render (value digits) := by
  have hplain : ∀ digits, Markers.standard.lexeme.Reads digits →
      Markers.standard.lexeme.Reads (numeral (value digits)) := fun _ _ =>
    Markers.standard.reads_iff.2 ⟨numeral_ne_nil _, isDecimal_of_mem_numeral⟩
  have hcut : Markers.standard.cut (respelled .standard s) = _ :=
    Markers.standard_cut_respelled hplain s
  rw [Markers.tokens, hcut, Cut.lexemes, Cut.lexemes, List.map_map, List.map_map, List.map_map]
  rfl

/-- What is staged comes back from unshielding with every index in plain digits, if no name in it is
unfinished. -/
theorem unshield_shield_of_namesFinished {m : Markers} (hfree : reserved? text = none)
    (hnames : NamesFinished m text) (h : shield m d text = .ok out) :
    unshield m out = .ok (respelled m text) := by
  have hwoven : reserved? ((m.cut text).head ++ woven m.token (m.cut text).tail) = none :=
    (congrArg reserved? (m.lexeme.weave_cut text)).trans hfree
  exact unshield_of_apart h ((apart_shielded_iff [] hwoven).2 hnames)

theorem tokens_finish_settledText (s : List Char) :
    Markers.standard.tokens (finish (settledText .standard Rule.table s)) =
      Markers.standard.tokens s := by
  rw [finish, Markers.standard_tokens_strip, Markers.tokens, Markers.tokens,
    cut_settledText Markers.standard_head?_ne_space, Cut.lexemes, Cut.lexemes, map_fst_settled]

/-- With the standard markers and a compiler that returns what it is given, the tokens of the result
are those of the source in plain digits, unless an unfinished name stands in front of one. They are
the tokens of the source, character for character, exactly if all indices were in plain digits. -/
theorem tokens_compile (hm : o.markers = .standard)
    (hc : ∀ r, (compiler r).result = .ok r.source)
    (h : (compile compiler source o).result = .ok css) :
    ∃ text, assembled o source = .ok text ∧
      (NamesFinished .standard text →
        Markers.standard.tokens css = ((Markers.standard.cut text).lexemes.map fun digits =>
          Markers.standard.render (value digits)) ∧
        (Markers.standard.tokens css = Markers.standard.tokens text ↔
          ∀ digits ∈ (Markers.standard.cut text).lexemes, ∃ n, digits = numeral n)) := by
  obtain ⟨staged, css', restored, hstaged, hcss, hrestored, rfl⟩ := result_compile_eq_ok_iff.1 h
  obtain ⟨text, rewritten, shielded, htext, hfree, huse, hshield, rfl⟩ := stage_eq_ok_iff.1 hstaged
  obtain rfl : shielded = css' := Except.ok.inj ((hc _).symm.trans hcss)
  rw [hm] at hshield hrestored
  refine ⟨text, htext, fun hnames => ?_⟩
  have hsame := sameStretches_rewriteUse huse
  have hback : unshield .standard shielded = .ok (respelled .standard rewritten) :=
    unshield_shield_of_namesFinished (hsame.reserved?_iff.1 hfree)
      (hsame.namesFinished_iff.1 hnames) hshield
  obtain ⟨s, hs, rfl⟩ := restoreText_eq_ok_iff.1 hrestored
  obtain rfl : respelled .standard rewritten = s := Except.ok.inj (hback.symm.trans hs)
  have htokens : Markers.standard.tokens
      (finish (settledText .standard Rule.table (respelled .standard rewritten))) =
        (Markers.standard.cut text).lexemes.map fun digits =>
          Markers.standard.render (value digits) := by
    rw [tokens_finish_settledText, tokens_respelled]
    exact congrArg (List.map _) hsame.lexemes_eq.symm
  refine ⟨htokens, ?_⟩
  rw [htokens, Markers.tokens]
  exact map_render_eq_map_token_iff

/-- Options for an indented source, with a preamble that has a blank between a token and a unit. -/
def themed : Options where
  dialect := .indented
  preamble := "$b: %%styled-jsx-placeholder-0%% px"

/-- An indented source that loads a sheet whose name holds a token. -/
def loadingSheet : List Char :=
  "  @use 'x-%%styled-jsx-placeholder-12%%' as *\n  a\n".toList

def outdentedSheet : List Char :=
  "@use 'x-%%styled-jsx-placeholder-12%%' as *\na".toList

def loadedSheet : List Char :=
  ("$b: %%styled-jsx-placeholder-0%%px\n" ++
    "@import 'x-%%styled-jsx-placeholder-12%%'\na").toList

theorem tokens_compile_loadingSheet :
    themed.markers = .standard ∧ (∀ r, (carryOver.compiler r).result = .ok r.source) ∧
      (compile carryOver.compiler loadingSheet themed).result = .ok loadedSheet ∧
      ∃ text, assembled themed loadingSheet = .ok text ∧ NamesFinished .standard text ∧
        Markers.standard.tokens loadedSheet = ((Markers.standard.cut text).lexemes.map fun digits =>
          Markers.standard.render (value digits)) ∧
        (Markers.standard.tokens loadedSheet = Markers.standard.tokens text ↔
          ∀ digits ∈ (Markers.standard.cut text).lexemes, ∃ n, digits = numeral n) := by
  have hcarry : ∀ r, (carryOver.compiler r).result = .ok r.source := fun _ => rfl
  have hassembled :
      assembled themed loadingSheet = .ok (withPreamble themed outdentedSheet) := by
    have hstrip : stripIndent loadingSheet = .ok outdentedSheet := by decide +kernel
    have hunindented : unindented themed loadingSheet = .ok outdentedSheet :=
      (mapError_eq_ok_iff (f := Fault.misindented)).2 hstrip
    exact assembled_eq_ok_iff.2 ⟨outdentedSheet, hunindented, rfl⟩
  have hstage : stage loadingSheet themed =
      .ok ⟨"$b: __sjx_ph_0__ px\n@import 'x-__sjx_ph_12__'\na".toList, .indented, []⟩ :=
    stage_eq_ok_iff.2 ⟨_, ("$b: %%styled-jsx-placeholder-0%% px\n" ++
      "@import 'x-%%styled-jsx-placeholder-12%%'\na").toList, _, hassembled, by decide +kernel,
      by decide +kernel, by decide +kernel, rfl⟩
  have hrun : (compile carryOver.compiler loadingSheet themed).result = .ok loadedSheet :=
    result_compile_eq_ok_iff.2 ⟨_, _, loadedSheet, hstage, hcarry _, by decide +kernel,
      by decide +kernel⟩
  have hnames : NamesFinished .standard (withPreamble themed outdentedSheet) := by
    have hgaps : ∀ gap ∈ gapsBefore (Markers.standard.cut (withPreamble themed outdentedSheet)).head
        (Markers.standard.cut (withPreamble themed outdentedSheet)).tail, '_' ∉ gap := by
      decide +kernel
    rintro gap hgap ⟨k, digits, under, -, -, -, -, hsuffix⟩
    exact hgaps gap hgap (hsuffix.subset (by simp [Kind.stem]))
  obtain ⟨text, htext, hmain⟩ := tokens_compile rfl hcarry hrun
  obtain rfl := Except.ok.inj (hassembled.symm.trans htext)
  exact ⟨rfl, hcarry, hrun, _, hassembled, hnames, hmain hnames⟩

def paddedIndex : List Char :=
  "a{b:%%styled-jsx-placeholder-007%%}".toList

/-- The zeros are lost on the way. -/
theorem tokens_compile_paddedIndex :
    (compile carryOver.compiler paddedIndex {}).result =
        .ok "a{b:%%styled-jsx-placeholder-7%%}".toList ∧
      assembled {} paddedIndex = .ok paddedIndex ∧
      Markers.standard.tokens "a{b:%%styled-jsx-placeholder-7%%}".toList ≠
        Markers.standard.tokens paddedIndex := by
  have hstage : stage paddedIndex {} = .ok ⟨"a{b:__sjx_ph_7__}".toList, .block, []⟩ :=
    stage_eq_ok_iff.2 ⟨paddedIndex, paddedIndex, _, rfl, by decide +kernel, by decide +kernel,
      by decide +kernel, rfl⟩
  refine ⟨result_compile_eq_ok_iff.2 ⟨_, _, "a{b:%%styled-jsx-placeholder-7%%}".toList, hstage, rfl,
    by decide +kernel, by decide +kernel⟩, rfl, by decide +kernel⟩

end Stencil.Compile
