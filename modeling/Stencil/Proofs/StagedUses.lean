import Stencil.Proofs.CompiledRuns
import Stencil.Proofs.LooseUses
import Stencil.Proofs.ShieldRoundTrip

/-!
# Use rules of a staged source

Shielding puts no use rule at the beginning of a line: a form holds no at-sign, no letter comes to
stand behind a word or goes away from there, and a line that begins behind a form began there
before. So no line of a staged source begins with a use rule, and the use rules that are left over
are the ones that stood on a line with something else in front of them.
-/

namespace Stencil.Source

open Stencil.Text Stencil.Number Stencil.Token Stencil.Shield

variable {m : Markers} {d : Dialect} {x y : Context} {c : Char} {f : Form}
  {s t gap next r r' : List Char} {tail : List (List Char × List Char)}

/-! ### Shielding -/

theorem beginsLine_next (h : x.beginsLine = true → y.beginsLine = true) (c : Char) :
    (x.next c).beginsLine = true → (y.next c).beginsLine = true := by
  intro hx
  simp only [Context.next, Bool.or_eq_true, Bool.and_eq_true] at hx ⊢
  exact hx.imp_right fun hline => ⟨h hline.1, hline.2⟩

theorem usesWhere_of_imp (h : x.beginsLine = true → y.beginsLine = true)
    (hs : usesWhere Context.beginsLine x s = true) :
    usesWhere Context.beginsLine y s = true := by
  obtain ⟨before, rest, hsplit, hrest, hp⟩ := usesWhere_iff.1 hs
  refine usesWhere_iff.2 ⟨before, rest, hsplit, hrest, ?_⟩
  clear hs hsplit
  induction before generalizing x y with
  | nil => exact h hp
  | cons c before ih => exact ih (beginsLine_next h c) hp

theorem usesWhere_append_right {p : Context → Bool} (h : usesWhere p (x.behind s) t = true) :
    usesWhere p x (s ++ t) = true := by
  obtain ⟨before, rest, rfl, hrest, hp⟩ := usesWhere_iff.1 h
  refine usesWhere_iff.2 ⟨s ++ before, rest, (List.append_assoc _ _ _).symm, hrest, ?_⟩
  rwa [Context.behind_append]

theorem startsUse_of_append_cons (hc : c ∉ useWord) (hlast : isWord c = false → s ≠ useWord)
    (h : startsUse (s ++ c :: r) = true) (r' : List Char) : startsUse (s ++ r') = true := by
  obtain ⟨rest, hs, hrest⟩ := startsUse_iff.1 h
  rcases List.append_eq_append_iff.1 hs with ⟨z, hz, he⟩ | ⟨z, rfl, rfl⟩
  · cases z with
    | nil =>
      rw [List.append_nil] at hz
      rw [List.nil_append] at he
      rw [← he] at hrest
      exact absurd hz.symm (hlast hrest)
    | cons e z =>
      obtain ⟨rfl, -⟩ := List.cons.inj he
      exact absurd (hz ▸ by simp) hc
  · cases z with
    | nil => exact absurd (List.append_nil _) (hlast hrest)
    | cons e z =>
      exact startsUse_iff.2 ⟨e :: z ++ r', by simp, hrest⟩

/-- A word behind a gap that is followed by a form either stands in the gap or behind it. -/
theorem usesWhere_gap (hxy : x.beginsLine = true → y.beginsLine = true) (hc : c ∉ useWord)
    (hlast : isWord c = false → ¬ useWord <:+ gap)
    (h : usesWhere Context.beginsLine x (gap ++ c :: r) = true) (r' : List Char) :
    usesWhere Context.beginsLine y (gap ++ r') = true ∨
      usesWhere Context.beginsLine (x.behind gap) (c :: r) = true := by
  induction gap generalizing x y with
  | nil => exact .inr h
  | cons e gap ih =>
    have hgap : isWord c = false → ¬ useWord <:+ gap := by
      intro hword hsuffix
      exact hlast hword (hsuffix.trans (List.suffix_cons e gap))
    rw [List.cons_append, usesWhere, Bool.or_eq_true, Bool.and_eq_true] at h
    rw [List.cons_append, usesWhere, Bool.or_eq_true, Bool.and_eq_true]
    rcases h with ⟨hx, huse⟩ | h
    · have hne : isWord c = false → e :: gap ≠ useWord := by
        intro hword he
        exact hlast hword (he ▸ List.suffix_rfl)
      exact .inl (.inl ⟨hxy hx, startsUse_of_append_cons hc hne huse r'⟩)
    · rcases ih (beginsLine_next hxy e) hgap h with h | h
      · exact .inl (.inr h)
      · exact .inr h

theorem beginsLine_behind_written (x : Context) (f : Form) :
    (x.behind f.written).beginsLine = false := by
  have hend : ∃ s c, (c = '_' ∨ c = '/') ∧ f.kind.right = s ++ [c] := by
    cases f.kind with
    | plain => exact ⟨['_'], '_', .inl rfl, rfl⟩
    | percent => exact ⟨['_'], '_', .inl rfl, rfl⟩
    | statement => exact ⟨['_', '_', '*'], '/', .inr rfl, rfl⟩
  obtain ⟨s, c, hc, hs⟩ := hend
  have hindent : isIndent c = false := by rcases hc with rfl | rfl <;> decide
  have hline : c ≠ '\n' := by rcases hc with rfl | rfl <;> decide
  rw [Form.written, hs, Context.behind_append, Context.behind_append]
  simp [Context.next, hindent, hline]

theorem at_not_mem_written (hf : Form.lexeme.Reads f) : '@' ∉ f.written := by
  have hsides : ∀ k : Kind, '@' ∉ k.left ∧ '@' ∉ k.right := by
    intro k
    cases k <;> decide
  exact Form.not_mem_of_sides hsides (by decide) hf

theorem not_useWord_suffix {b gap after : List Char}
    (h : kindAt m d ⟨b ++ gap, after⟩ = .statement) : ¬ useWord <:+ gap := by
  rintro ⟨g, rfl⟩
  have halone : standsAlone d ⟨(b ++ g) ++ useWord, after⟩ = true := by
    rw [List.append_assoc]
    unfold kindAt at h
    split_ifs at h with _ halone
    exact halone
  have hword : useWord.all (fun c => !isBoundary c && c != '\n') = true := by decide
  have hinside : ∀ c ∈ useWord, isBoundary c = false ∧ c ≠ '\n' := by
    intro c hc
    simpa using List.all_eq_true.1 hword c hc
  have hblank := blank_of_standsAlone halone hinside '@' (by decide)
  exact absurd hblank (by decide)

theorem Form.written_eq_cons (f : Form) :
    ∃ c w, f.written = c :: w ∧ c ∉ useWord ∧ (isWord c = false → f.kind = .statement) := by
  by_cases hk : f.kind = .statement
  · obtain ⟨w, hw⟩ := Form.written_of_statement hk
    exact ⟨'/', w, hw, by decide, fun _ => hk⟩
  · obtain ⟨w, hw⟩ := Form.written_of_ne_statement hk
    refine ⟨'_', '_' :: 's' :: w, hw, by decide, fun hword => ?_⟩
    exact absurd hword (by decide +kernel)

/-- Where a word stands at the beginning of a line of a shielded text, one stands there already
before shielding. -/
theorem usesWhere_shielded {b : List Char} (hxy : x.beginsLine = true → y.beginsLine = true)
    (h : usesWhere Context.beginsLine x
      (gap ++ woven Form.written (shielded m d (b ++ gap) tail)) = true) :
    usesWhere Context.beginsLine y (gap ++ woven m.token tail) = true := by
  induction tail generalizing b gap x y with
  | nil => exact usesWhere_of_imp hxy h
  | cons q more ih =>
    obtain ⟨digits, next⟩ := q
    rw [shielded_cons, woven_cons] at h
    rw [woven_cons]
    generalize hp : (⟨b ++ gap, next ++ woven m.token more⟩ : Place) = place at h
    have hcovered : (kindAt m d place).covered ++ next.drop (kindAt m d place).covered.length =
        next := covered_append_drop (by rw [← hp])
    generalize hf : (⟨kindAt m d place, numeral (value digits)⟩ : Form) = f at h
    obtain ⟨c, w, hwritten, hc, hstatement⟩ := Form.written_eq_cons f
    have hlast : isWord c = false → ¬ useWord <:+ gap := by
      intro hword
      have hkind := hstatement hword
      rw [← hf, ← hp] at hkind
      exact not_useWord_suffix hkind
    have hclean : '@' ∉ f.written := at_not_mem_written (hf ▸ reads_numeral _ _)
    rw [hwritten, List.cons_append] at h
    rcases usesWhere_gap hxy hc hlast h (m.token digits ++ (next ++ woven m.token more)) with h | h
    · exact h
    · rw [← List.cons_append, ← hwritten, usesWhere_append_of_ne hclean] at h
      have hbehind := beginsLine_behind_written (x.behind gap) f
      have hbefore : b ++ gap ++ m.token digits ++ next =
          b ++ gap ++ m.token digits ++ (kindAt m d place).covered ++
            next.drop (kindAt m d place).covered.length := by
        rw [List.append_assoc _ (Kind.covered _), hcovered]
      rw [hbefore] at h
      have hnext : usesWhere Context.beginsLine
          (y.behind (gap ++ m.token digits ++ (kindAt m d place).covered))
          (next.drop (kindAt m d place).covered.length ++ woven m.token more) = true :=
        ih (by simp [hbehind]) h
      have hrest := usesWhere_append_right hnext
      rw [List.append_assoc, List.append_assoc, ← List.append_assoc (Kind.covered _), hcovered]
        at hrest
      exact hrest

theorem usesWhere_shield (h : shield m d s = .ok t)
    (hs : usesWhere Context.beginsLine .start s = false) :
    usesWhere Context.beginsLine .start t = false := by
  obtain ⟨-, rfl⟩ := shield_eq_ok_iff.1 h
  rw [Bool.eq_false_iff]
  intro huse
  have hold := usesWhere_shielded (b := []) id huse
  have htext : (m.cut s).head ++ woven m.token (m.cut s).tail = s := m.lexeme.weave_cut s
  rw [htext, hs] at hold
  exact absurd hold (by simp)

/-! ### Use rules -/

/-- Whether nothing but spaces and tabs stands in front on the line. -/
def leadsLine (before : List Char) : Bool :=
  (behindLast (· == '\n') before).all isIndent

/-- A use rule of a text: the word of one, with nothing but blanks behind the last semicolon or
brace in front of it, outside of strings and comments. -/
structure UseRule (s before rest : List Char) : Prop where
  split : s = before ++ (useWord ++ rest)
  word : startsWord rest = false
  first : allBlank (behindLast isBoundary before) = true
  outside : (Context.start.behind before).region.outside = true

/-- Whether a use rule may stand here with something else in front of it on its line. -/
def isLoose (x : Context) : Bool :=
  x.region.outside && x.beginsStatement && !x.beginsLine

theorem exists_useRule_iff : (∃ before rest, UseRule s before rest ∧ leadsLine before = false) ↔
    usesWhere isLoose .start s = true := by
  rw [usesWhere_iff]
  refine exists_congr fun before => exists_congr fun rest => ?_
  rw [isLoose, beginsStatement_behind, beginsLine_behind, Bool.and_eq_true, Bool.and_eq_true,
    Bool.not_eq_true']
  constructor
  · rintro ⟨⟨hsplit, hword, hfirst, houtside⟩, hline⟩
    exact ⟨hsplit, hword, ⟨houtside, hfirst⟩, hline⟩
  · rintro ⟨hsplit, hword, ⟨houtside, hfirst⟩, hline⟩
    exact ⟨⟨hsplit, hword, hfirst, houtside⟩, hline⟩

theorem forall_not_leadsLine_iff :
    (∀ before rest, s = before ++ (useWord ++ rest) → startsWord rest = false →
      leadsLine before = false) ↔ usesWhere Context.beginsLine .start s = false := by
  rw [Bool.eq_false_iff, Ne, usesWhere_iff]
  constructor
  · rintro h ⟨before, rest, hsplit, hword, hline⟩
    rw [beginsLine_behind] at hline
    exact absurd hline (by simpa [leadsLine] using h before rest hsplit hword)
  · intro h before rest hsplit hword
    rw [Bool.eq_false_iff]
    intro hline
    refine h ⟨before, rest, hsplit, hword, ?_⟩
    rwa [beginsLine_behind]

theorem skipsLines_isLoose : SkipsLines isLoose := by
  intro x hx
  simp [isLoose, hx]

theorem usesWhere_rewriteUse {p : Context → Bool} {out : List Char} (hp : SkipsLines p)
    (h : rewriteUse s = .ok out) : usesWhere p .start out = usesWhere p .start s := by
  obtain ⟨lines, hlines, rfl⟩ := map_eq_ok_iff.1 h
  have hsame := usesWhere_rewritten hp (rewriteLines_eq_ok_iff.1 hlines)
    (x := .start) rfl
  rwa [joinNewlines_splitNewlines] at hsame

/-- No line of a rewritten text begins with a use rule. -/
theorem usesWhere_beginsLine_rewriteUse {out : List Char} (h : rewriteUse s = .ok out) :
    usesWhere Context.beginsLine .start out = false := by
  obtain ⟨lines, hlines, rfl⟩ := map_eq_ok_iff.1 h
  refine usesWhere_beginsLine_joinNewlines ?_ rfl
  refine forall_mem_of_forall₂ (rewriteLines_eq_ok_iff.1 hlines) ?_
    (newline_not_mem_of_mem_splitNewlines s)
  intro line line' hline hclean
  exact ⟨newline_not_mem_of_rewriteLine hline hclean, beginsUse_of_rewriteLine hline⟩

/-- Where rewriting returns, no line of the result begins with a use rule, and so it is with the
text of a staged source. The result has a use rule exactly if the text had one with something else
in front of it on its line. -/
theorem useRules_rewriteUse (s : List Char) :
    (∀ out, rewriteUse s = .ok out →
      (∀ before rest, out = before ++ (useWord ++ rest) → startsWord rest = false →
        leadsLine before = false) ∧
      ((∃ before rest, UseRule out before rest) ↔
        ∃ before rest, UseRule s before rest ∧ leadsLine before = false)) ∧
    ∀ o staged, stage s o = .ok staged →
      ∀ before rest, staged.text = before ++ (useWord ++ rest) → startsWord rest = false →
        leadsLine before = false := by
  constructor
  · intro out h
    have hlines := forall_not_leadsLine_iff.2 (usesWhere_beginsLine_rewriteUse h)
    refine ⟨hlines, ?_⟩
    rw [exists_useRule_iff, ← usesWhere_rewriteUse skipsLines_isLoose h, ← exists_useRule_iff]
    constructor
    · rintro ⟨before, rest, hrule⟩
      exact ⟨before, rest, hrule, hlines before rest hrule.split hrule.word⟩
    · rintro ⟨before, rest, hrule, -⟩
      exact ⟨before, rest, hrule⟩
  · intro o staged h
    obtain ⟨text, rewritten, shielded, -, -, huse, hshield, rfl⟩ := stage_eq_ok_iff.1 h
    exact forall_not_leadsLine_iff.2
      (usesWhere_shield hshield (usesWhere_beginsLine_rewriteUse huse))

/-- A style sheet with a use rule that begins a line, and with one behind a block. -/
def mixedSheet : List Char :=
  "@use 'a' as *;\na \x7b\x7d @use 'b' as c;".toList

def importingSheet : List Char :=
  "@import 'a';\na \x7b\x7d @use 'b' as c;".toList

theorem useRules_rewriteUse_mixedSheet :
    rewriteUse mixedSheet = .ok importingSheet ∧
      UseRule mixedSheet "@use 'a' as *;\na \x7b\x7d ".toList " 'b' as c;".toList ∧
      (∃ before rest, UseRule importingSheet before rest) ∧
      stage mixedSheet {} = .ok ⟨importingSheet, .block, []⟩ ∧
      leadsLine "@import 'a';\na \x7b\x7d ".toList = false := by
  have huse : rewriteUse mixedSheet = .ok importingSheet := by decide +kernel
  have hstage : stage mixedSheet {} = .ok ⟨importingSheet, .block, []⟩ :=
    stage_eq_ok_iff.2 ⟨mixedSheet, importingSheet, importingSheet, rfl, by decide +kernel, huse,
      by decide +kernel, rfl⟩
  have hrule : UseRule mixedSheet "@use 'a' as *;\na \x7b\x7d ".toList " 'b' as c;".toList :=
    ⟨by decide +kernel, by decide +kernel, by decide +kernel, by decide +kernel⟩
  obtain ⟨hrewritten, hstaged⟩ := useRules_rewriteUse mixedSheet
  have hloose := (hrewritten _ huse).2.2 ⟨_, _, hrule, by decide +kernel⟩
  exact ⟨huse, hrule, hloose, hstage,
    hstaged _ _ hstage _ " 'b' as c;".toList (by decide +kernel) (by decide +kernel)⟩

/-- Of two plain use rules on one line the second one stays. -/
theorem useRules_rewriteUse_oneLine :
    rewriteUse "@use 'a'; @use 'b';".toList = .ok "@import 'a'; @use 'b';".toList ∧
      UseRule "@import 'a'; @use 'b';".toList "@import 'a'; ".toList " 'b';".toList :=
  ⟨by decide +kernel,
    ⟨by decide +kernel, by decide +kernel, by decide +kernel, by decide +kernel⟩⟩

end Stencil.Source
