import Stencil.Proofs.RunFaults

/-!
# Faults that no contract names

A compiler answers, or it refuses a source with a fault of compilation. So do the external compiler
and its messages, and yet a run may end with a third kind of fault: indices, line numbers and
columns are read as numbers, and reading refuses more than `longest` digits. `Overread` lists the
places where this can happen, and `faults_compile` shows that there are no others.
-/

namespace Stencil.Compile

open Stencil.Text Stencil.Number Stencil.Token Stencil.Options Stencil.Source Stencil.Shield
open Stencil.Adjacency

variable {compiler : Compiler} {external : External} {request : Request} {o : Options}
  {source digits message css : List Char} {e : Fault}

/-! ### Numbers of too many digits -/

def Spelled.Overlong (p : Spelled) : Prop :=
  longest < p.line.length ∨ ∃ column, p.column = some column ∧ longest < column.length

theorem exists_ofMessage_eq_error_iff : (∃ t, Position.ofMessage message = .error t) ↔
    ∃ p, spelledFrom? false message = some p ∧ p.Overlong := by
  unfold Position.ofMessage
  cases hp : spelledFrom? false message with
  | none => simp
  | some p =>
    obtain ⟨line, column⟩ := p
    cases column with
    | none =>
      simp only [bind_eq_error_iff, pure_ne_error, and_false, exists_false, or_false,
        exists_read_eq_error_iff, Option.some.injEq, exists_eq_left', Spelled.Overlong,
        reduceCtorEq, false_and]
    | some column =>
      simp only [bind_eq_error_iff, pure_ne_error, and_false, exists_false, or_false,
        Option.some.injEq, exists_eq_left', Spelled.Overlong]
      constructor
      · rintro ⟨t, h | ⟨n, -, h⟩⟩
        · exact .inl (exists_read_eq_error_iff.1 ⟨t, h⟩)
        · exact .inr (exists_read_eq_error_iff.1 ⟨t, h⟩)
      · intro h
        by_cases hline : longest < line.length
        · obtain ⟨t, ht⟩ := exists_read_eq_error_iff.2 hline
          exact ⟨t, .inl ht⟩
        · obtain ⟨t, ht⟩ := exists_read_eq_error_iff.2 (h.resolve_left hline)
          exact ⟨t, .inr ⟨_, read_eq_ok_iff.2 ⟨by omega, rfl⟩, ht⟩⟩

/-! ### Compilers -/

/-- Whether a compiler keeps the contract: it refuses a source with a fault of compilation alone,
and it does not hand the request on. -/
structure Documented (compiler : Compiler) : Prop where
  refuses : ∀ request e, (compiler request).result = .error e → e.category = .compilation
  quiet : ∀ request, (compiler request).requests = []

/-- A compiler that returns the same style sheet for every source. -/
def answering (css : List Char) : Compiler := fun _ => ⟨[], .ok css⟩

theorem documented_answering (css : List Char) : Documented (answering css) where
  refuses request e h := absurd h (by simp [answering])
  quiet request := rfl

theorem faultOfMessage_eq (message : List Char) :
    (∃ p, faultOfMessage message = .rejected p) ∨ ∃ t, faultOfMessage message = .tooLong t := by
  cases h : Position.ofMessage (strip message) with
  | error t => exact .inr ⟨t, by simp [faultOfMessage, h]⟩
  | ok position => exact .inl ⟨⟨strip message, position⟩, by simp [faultOfMessage, h]⟩

theorem exists_faultOfMessage_eq_tooLong_iff : (∃ t, faultOfMessage message = .tooLong t) ↔
    ∃ p, spelledFrom? false (strip message) = some p ∧ p.Overlong := by
  rw [← exists_ofMessage_eq_error_iff]
  cases h : Position.ofMessage (strip message) with
  | error t => simp [faultOfMessage, h]
  | ok position => simp [faultOfMessage, h]

theorem result_external (external : External) (request : Request) :
    (external.compiler request).result =
      (external.answer request.invocation).mapError faultOfMessage := rfl

theorem requests_external (external : External) (request : Request) :
    (external.compiler request).requests = [] := rfl

/-! ### Runs -/

/-- The places where a run may read a number of too many digits: a token of the source, the position
in a message of the external compiler, and a form of the style sheet that a compiler returns. -/
inductive Overread (compiler : Compiler) (source : List Char) (o : Options) : Prop
  | token {text rewritten digits : List Char} (htext : assembled o source = .ok text)
      (hfree : reserved? text = none) (huse : rewriteUse text = .ok rewritten)
      (hmem : digits ∈ (o.markers.cut rewritten).lexemes) (hlong : longest < digits.length)
  | message {staged : Staged} {external : External} {message : List Char} {p : Spelled}
      (hstaged : stage source o = .ok staged) (hcompiler : compiler = external.compiler)
      (hmessage : external.answer (requestFor staged o).invocation = .error message)
      (hposition : spelledFrom? false (strip message) = some p) (hlong : p.Overlong)
  | form {staged : Staged} {css : List Char} {f : Form} (hstaged : stage source o = .ok staged)
      (hcss : (compiler (requestFor staged o)).result = .ok css)
      (hmem : f ∈ Form.lexeme.lexemes css) (hlong : longest < f.digits.length)

theorem exists_restoreText_eq_ok_iff (m : Markers) (css : List Char) (rules : List Rule) :
    (∃ out, restoreText m css rules = .ok out) ↔
      ∀ f ∈ Form.lexeme.lexemes css, f.digits.length ≤ longest := by
  rw [← exists_unshield_eq_ok_iff (m := m)]
  constructor
  · rintro ⟨out, h⟩
    obtain ⟨s, hs, -⟩ := restoreText_eq_ok_iff.1 h
    exact ⟨s, hs⟩
  · rintro ⟨s, hs⟩
    exact ⟨_, restoreText_eq_ok_iff.2 ⟨s, hs, rfl⟩⟩

section Contract

variable (hc : Documented compiler ∨ ∃ external : External, compiler = external.compiler)
include hc

theorem requests_of_contract (request : Request) : (compiler request).requests = [] := by
  rcases hc with hdocumented | ⟨external, rfl⟩
  · exact hdocumented.quiet request
  · exact requests_external external request

theorem category_of_refusal (h : (compiler request).result = .error e) :
    e.category = .compilation ∨ ∃ t, e = .tooLong t := by
  rcases hc with hdocumented | ⟨external, rfl⟩
  · exact .inl (hdocumented.refuses request e h)
  · rw [result_external, mapError_eq_error_iff] at h
    obtain ⟨message, -, rfl⟩ := h
    rcases faultOfMessage_eq message with ⟨p, hp⟩ | ⟨t, ht⟩
    · rw [hp]
      exact .inl rfl
    · exact .inr ⟨t, ht⟩

theorem exists_tooLong_iff_overread :
    (∃ t, (compile compiler source o).result = .error (.tooLong t)) ↔
      Overread compiler source o := by
  constructor
  · rintro ⟨t, h⟩
    rcases result_compile_eq_error_iff.1 h with hstage | ⟨staged, hstaged, hrefused | hrestoring⟩
    · cases hstage with
      | tooLong htext hfree huse hshield =>
        obtain ⟨digits, hmem, hlong⟩ := exists_shield_eq_error_iff.1 ⟨t, hshield⟩
        exact .token htext hfree huse hmem hlong
    · rcases hc with hdocumented | ⟨external, rfl⟩
      · exact absurd (hdocumented.refuses _ _ hrefused) (by simp [Fault.category])
      · rw [result_external, mapError_eq_error_iff] at hrefused
        obtain ⟨message, hmessage, hfault⟩ := hrefused
        obtain ⟨p, hp, hlong⟩ := exists_faultOfMessage_eq_tooLong_iff.1 ⟨t, hfault⟩
        exact .message hstaged rfl hmessage hp hlong
    · obtain ⟨css, hcss, t', hunshield, -⟩ := hrestoring
      obtain ⟨f, hmem, hlong⟩ := exists_unshield_eq_error_iff.1 ⟨t', hunshield⟩
      exact .form hstaged hcss hmem hlong
  · intro h
    cases h with
    | token htext hfree huse hmem hlong =>
      obtain ⟨t, ht⟩ := exists_shield_eq_error_iff.2 ⟨_, hmem, hlong⟩
      exact ⟨t, result_compile_eq_error_iff.2 (.inl (.tooLong htext hfree huse ht))⟩
    | message hstaged hcompiler hmessage hposition hlong =>
      subst hcompiler
      obtain ⟨t, ht⟩ := exists_faultOfMessage_eq_tooLong_iff.2 ⟨_, hposition, hlong⟩
      refine ⟨t, result_compile_eq_error_iff.2 (.inr ⟨_, hstaged, .inl ?_⟩)⟩
      rw [result_external, mapError_eq_error_iff]
      exact ⟨_, hmessage, ht⟩
    | form hstaged hcss hmem hlong =>
      obtain ⟨t, ht⟩ := exists_unshield_eq_error_iff.2 ⟨_, hmem, hlong⟩
      exact ⟨t, result_compile_eq_error_iff.2 (.inr ⟨_, hstaged, .inr ⟨_, hcss, t, ht, rfl⟩⟩)⟩

end Contract

/-- A run of a compiler that keeps the contract, or of the external one, ends with a fault of the
options, of the source, or with a number of too many digits, and it ends with the last exactly where
one is read. The compiler is asked once if the source was staged and not at all otherwise. Once it
has answered, the run returns exactly if every form in the answer can be read. -/
theorem faults_compile
    (hc : Documented compiler ∨ ∃ external : External, compiler = external.compiler)
    (source : List Char) (o : Options) :
    (∀ e, (compile compiler source o).result = .error e →
      e.category = .configuration ∨ e.category = .compilation ∨ ∃ t, e = .tooLong t) ∧
    ((∃ t, (compile compiler source o).result = .error (.tooLong t)) ↔
      Overread compiler source o) ∧
    (∀ e, stage source o = .error e → (compile compiler source o).requests = []) ∧
    ∀ staged, stage source o = .ok staged →
      (compile compiler source o).requests = [requestFor staged o] ∧
        ∀ css, (compiler (requestFor staged o)).result = .ok css →
          ((∃ out, (compile compiler source o).result = .ok out) ↔
            ∀ f ∈ Form.lexeme.lexemes css, f.digits.length ≤ longest) := by
  refine ⟨fun e h => ?_, exists_tooLong_iff_overread hc, fun e h => requests_compile_of_fault h,
    fun staged hstaged => ⟨?_, fun css hcss => ?_⟩⟩
  · rcases result_compile_eq_error_iff.1 h with hstage | ⟨staged, -, hrefused | hrestoring⟩
    · exact category_of_stageFault hstage
    · exact .inr (category_of_refusal hc hrefused)
    · obtain ⟨css, -, t, -, he⟩ := hrestoring
      exact .inr (.inr ⟨t, he⟩)
  · exact requests_compile_of_staged hstaged (requests_of_contract hc _)
  · rw [← exists_restoreText_eq_ok_iff o.markers css Rule.table]
    constructor
    · rintro ⟨out, h⟩
      obtain ⟨staged', css', text, hstaged', hcss', htext, -⟩ := result_compile_eq_ok_iff.1 h
      obtain rfl : staged = staged' := Except.ok.inj (hstaged.symm.trans hstaged')
      obtain rfl : css = css' := Except.ok.inj (hcss.symm.trans hcss')
      exact ⟨text, htext⟩
    · rintro ⟨text, htext⟩
      exact ⟨_, result_compile_eq_ok_iff.2 ⟨staged, css, text, hstaged, hcss, htext, rfl⟩⟩

def refusing : External where
  version := "3.6.6"
  answer _ := .error "Error: undefined variable\n        on line 3:14 of stdin\n".toList

def refusal : Rejection where
  message := "Error: undefined variable\n        on line 3:14 of stdin".toList
  position := ⟨some 3, some 14⟩

theorem faults_compile_refusal :
    (∃ external : External, refusing.compiler = external.compiler) ∧
      stage "a".toList {} = .ok ⟨"a".toList, .block, []⟩ ∧
      (compile refusing.compiler "a".toList {}).result = .error (.rejected refusal) ∧
      ¬ Overread refusing.compiler "a".toList {} ∧
      (compile refusing.compiler "a".toList {}).requests =
        [requestFor ⟨"a".toList, .block, []⟩ {}] ∧
      Documented (answering "b".toList) ∧
      ∃ out, (compile (answering "b".toList) "a".toList {}).result = .ok out := by
  have hstaged : stage "a".toList {} = .ok ⟨"a".toList, .block, []⟩ :=
    stage_eq_ok_iff.2 ⟨"a".toList, "a".toList, "a".toList, rfl, by decide +kernel,
      by decide +kernel, by decide +kernel, rfl⟩
  have hfault : faultOfMessage "Error: undefined variable\n        on line 3:14 of stdin\n".toList =
      .rejected refusal := by
    have hmessage : strip "Error: undefined variable\n        on line 3:14 of stdin\n".toList =
        refusal.message := by decide +kernel
    have hposition : Position.ofMessage refusal.message = .ok refusal.position := by
      decide +kernel
    simp only [faultOfMessage, hmessage, hposition]
  have hresult : (compile refusing.compiler "a".toList {}).result = .error (.rejected refusal) :=
    result_compile_eq_error_iff.2 (.inr ⟨_, hstaged, .inl (congrArg Except.error hfault)⟩)
  obtain ⟨-, hoverread, -, hasked⟩ := faults_compile (.inr ⟨refusing, rfl⟩) "a".toList {}
  obtain ⟨-, -, -, hanswered⟩ :=
    faults_compile (.inl (documented_answering "b".toList)) "a".toList {}
  refine ⟨⟨refusing, rfl⟩, hstaged, hresult, ?_, (hasked _ hstaged).1, documented_answering _, ?_⟩
  · rw [← hoverread]
    rintro ⟨t, ht⟩
    exact absurd (hresult.symm.trans ht) (by simp)
  · exact ((hanswered _ hstaged).2 _ rfl).2 (by decide +kernel)

theorem unshield_written_eq_error {m : Markers} {f : Form} (hf : Form.lexeme.Reads f)
    (hlong : longest < f.digits.length) : unshield m f.written = .error ⟨f.digits.length⟩ := by
  have hread := hf []
  rw [List.append_nil] at hread
  have hcut : Form.lexeme.cut f.written = ⟨[], [(f, [])]⟩ := by
    rw [Form.lexeme_written] at hread
    rw [Form.lexeme.cut_of_read? hread, Form.lexeme.cut_nil]
    rfl
  have herror : Number.read f.digits = .error ⟨f.digits.length⟩ := read_eq_error_iff.2 ⟨hlong, rfl⟩
  unfold unshield Cut.traverse Form.unshielded
  rw [hcut]
  simp only [List.mapM_cons, herror]
  rfl

/-- A style sheet that is one form, with an index of too many digits. -/
def overlongSheet : List Char :=
  Form.written ⟨.plain, List.replicate 4301 '1'⟩

/-- The run ends with a fault that is none of the options and none of the source. -/
theorem faults_compile_overlongSheet :
    Documented (answering overlongSheet) ∧
      stage "a\x7b\x7d".toList {} = .ok ⟨"a\x7b\x7d".toList, .block, []⟩ ∧
      (compile (answering overlongSheet) "a\x7b\x7d".toList {}).result =
        .error (.tooLong ⟨4301⟩) ∧
      (Fault.tooLong ⟨4301⟩).category = .value := by
  have hstaged : stage "a\x7b\x7d".toList {} = .ok ⟨"a\x7b\x7d".toList, .block, []⟩ :=
    stage_eq_ok_iff.2 ⟨"a\x7b\x7d".toList, "a\x7b\x7d".toList, "a\x7b\x7d".toList, rfl,
      by decide +kernel, by decide +kernel, by decide +kernel, rfl⟩
  have hreads : Form.lexeme.Reads ⟨.plain, List.replicate 4301 '1'⟩ := by
    have hne : List.replicate 4301 '1' ≠ [] := by
      apply List.ne_nil_of_length_pos
      rw [List.length_replicate]
      decide
    refine Form.reads_iff.2 ⟨hne, fun c hc => ?_⟩
    rw [(List.mem_replicate.1 hc).2]
    decide
  have herror : unshield .standard overlongSheet = .error ⟨4301⟩ := by
    have hlong : longest < (List.replicate 4301 '1').length := by
      rw [List.length_replicate]
      decide
    have h := unshield_written_eq_error (m := .standard) hreads hlong
    rwa [List.length_replicate] at h
  refine ⟨documented_answering _, hstaged, ?_, rfl⟩
  exact result_compile_eq_error_iff.2 (.inr ⟨_, hstaged, .inr ⟨overlongSheet, rfl, _, herror, rfl⟩⟩)

end Stencil.Compile
