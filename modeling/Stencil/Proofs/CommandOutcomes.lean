import Stencil.Proofs.UnwordedFaults
import Stencil.Yaml.Reader

/-!
# How the command ends

A command line that is followed ends in one of three ways. It prints the compiled source; or it
tells in words what is wrong, prints nothing else and exits with two; or the fault is put into no
words. The last has two causes: markers in the options file that are sequences, and exceptions that
the machine or the reader of documents raises and that are not about a value. The external compiler
is called once if options, source and staging are without fault, and never otherwise.
-/

namespace Stencil.Command

open Stencil.Text Stencil.Files Stencil.Options Stencil.Source Stencil.Compile Stencil.Yaml

variable {read : Reader} {external : External} {h : Host} {s : Settings} {f : Fault} {o : Options}

/-! ### Words -/

/-- Whether a text has something to read in it. -/
def Tells (text : String) : Prop :=
  allBlank text.toList = false

instance (text : String) : Decidable (Tells text) :=
  inferInstanceAs (Decidable (allBlank text.toList = false))

theorem Tells.append {front : String} (hfront : Tells front) (rest : String) :
    Tells (front ++ rest) := by
  unfold Tells at hfront ⊢
  rw [String.toList_append, allBlank, List.all_append, ← allBlank, hfront, Bool.false_and]

theorem Tells.trimmed {text : String} (htext : Tells text) : Tells (trimmed text) := by
  obtain ⟨c, hc, hblank⟩ := List.all_eq_false.1 htext
  refine List.all_eq_false.2 ⟨c, ?_, hblank⟩
  rw [Command.trimmed, String.toList_ofList, stripRight, List.mem_reverse]
  have hreverse := List.mem_reverse.2 hc
  rw [← List.takeWhile_append_dropWhile (p := isBlank) (l := text.toList.reverse),
    List.mem_append] at hreverse
  rcases hreverse with htake | hdrop
  · exact absurd (holds_of_mem_takeWhile htake) hblank
  · exact hdrop

/-- Whether a run with these settings compiles its source to a style sheet. -/
def Compiles (read : Reader) (external : External) (h : Host) (s : Settings) (css : List Char) :
    Prop :=
  ∃ o source, s.options read h = .ok o ∧ s.sourceText h = .ok source ∧
    (Compile.compile external.compiler source o).result = .ok css

/-- Whether options, source and staging are without fault and lead to this call of the external
compiler. -/
def Calls (read : Reader) (h : Host) (s : Settings) (i : Invocation) : Prop :=
  ∃ o source staged, s.options read h = .ok o ∧ s.sourceText h = .ok source ∧
    stage source o = .ok staged ∧ i = (requestFor staged o).invocation

theorem result_compile_eq_ok_iff {css : List Char} :
    (s.compile read external h).result = .ok css ↔ Compiles read external h s css := by
  simp only [Settings.compile, Run.result_bind_eq_ok_iff, Run.result_ofExcept, Compiles,
    exists_and_left]

theorem invocations_of_calls {i : Invocation} (hcall : Calls read h s i) :
    (s.compile read external h).invocations = [i] := by
  obtain ⟨o, source, staged, ho, hsource, hstaged, rfl⟩ := hcall
  rw [← invocations_compile_of_staged external hstaged]
  unfold Settings.compile
  rw [ho, hsource]
  rfl

theorem invocations_of_not_calls (hcall : ¬ ∃ i, Calls read h s i) :
    (s.compile read external h).invocations = [] := by
  unfold Settings.compile
  cases ho : s.options read h with
  | error e => rfl
  | ok o =>
    cases hsource : s.sourceText h with
    | error e => rfl
    | ok source =>
      cases hstaged : stage source o with
      | error e => exact invocations_compile_of_fault hstaged
      | ok staged => exact absurd ⟨_, o, source, staged, ho, hsource, hstaged, rfl⟩ hcall

theorem calls_of_mem_invocations {i : Invocation}
    (hi : i ∈ (s.compile read external h).invocations) : Calls read h s i := by
  by_cases hcall : ∃ i, Calls read h s i
  · obtain ⟨j, hj⟩ := hcall
    rw [invocations_of_calls hj, List.mem_singleton] at hi
    rw [hi]
    exact hj
  · simp [invocations_of_not_calls hcall] at hi

/-! ### Outcomes -/

theorem run_eq {arguments : List String}
    (hs : Settings.ofArguments (arguments.map String.toList) = .ok s) :
    run read external h arguments = .ofRun h (s.compile read external h) := by
  simp only [run, hs]

theorem exists_ofRun (h : Host) (r : Run (List Char)) :
    ∃ told, (h.reports = false → told = "") ∧
      ((∃ css, r.result = .ok css ∧
        Outcome.ofRun h r = ⟨.ok 0, String.ofList css ++ "\n", told, r.invocations⟩) ∨
      (∃ f text, r.result = .error f ∧ faultText? f = some text ∧
        Outcome.ofRun h r = ⟨.ok 2, "", told ++ text, r.invocations⟩) ∨
      ∃ f, r.result = .error f ∧ faultText? f = none ∧
        Outcome.ofRun h r = ⟨.error f, "", told, r.invocations⟩) := by
  refine ⟨if h.reports then String.join (r.reports.map reportLine) else "", by simp_all, ?_⟩
  cases hr : r.result with
  | ok css => exact .inl ⟨css, rfl, by simp only [Outcome.ofRun, hr]⟩
  | error f =>
    cases htext : faultText? f with
    | some text =>
      exact .inr (.inl ⟨f, text, rfl, htext, by simp only [Outcome.ofRun, hr, htext, failure]⟩)
    | none => exact .inr (.inr ⟨f, rfl, htext, by simp only [Outcome.ofRun, hr, htext]⟩)

section Ends

variable {r : Run (List Char)}

theorem invocations_ofRun : (Outcome.ofRun h r).invocations = r.invocations := by
  obtain ⟨told, -, ⟨css, -, hout⟩ | ⟨e, text, -, -, hout⟩ | ⟨e, -, -, hout⟩⟩ := exists_ofRun h r
  · rw [hout]
  · rw [hout]
  · rw [hout]

end Ends

def plainBytes (s : String) : List UInt8 :=
  s.toList.map fun c => c.val.toUInt8

/-- A host in a directory with one file, an options file, and with this on standard input. -/
def hostIn (directory file input : String) : Host :=
  let place := (Path.ofString directory).join (Path.ofString "o.yaml")
  .ofTree ⟨Path.ofString directory, [(place.parts, plainBytes file)]⟩ (plainBytes input)

def smallHost (file input : String) : Host :=
  hostIn "/" file input

def plainCall : Invocation where
  source := "a\x7b\x7d".toList
  indented := false
  includePaths := []
  outputStyle := .expanded
  sourceComments := false
  precision := some 5

/-- A run on a host in the root directory, with a compiler that carries the source over. -/
def runSmall (file input : String) (arguments : List String) : Outcome :=
  run Yaml.reader carryOver (smallHost file input) arguments

end Stencil.Command
