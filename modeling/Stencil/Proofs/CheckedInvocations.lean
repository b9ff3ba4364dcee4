import Stencil.Proofs.LoadedOptions

/-!
# What the external compiler is called with

Options come from a mapping, from an options file or from flags. The arguments of a call can be
written as a mapping again, and that mapping is read as the very options that the call carries:
whatever came from a mapping or from a file was checked. Flags are not checked, and there is one
that can say what no mapping can: a precision below zero.
-/

namespace Stencil

open Stencil.Options Stencil.Source Stencil.Compile

namespace Options

variable {entries : List (Value × Value)} {o : Options} {n : Int}

theorem Stated.precision_nonneg (h : Stated entries o) (hn : o.precision = some n) : 0 ≤ n := by
  have hprecision := h.precision
  rw [hn] at hprecision
  unfold Says at hprecision
  split at hprecision
  · obtain ⟨-, hnone⟩ | ⟨k, hk, -, hsome⟩ := hprecision
    · simp at hnone
    · rw [Option.some.inj hsome]
      exact hk
  · simp at hprecision

end Options

namespace Compile

def precisionValue : Option Int → Value
  | some n => .integer n
  | none => .null

namespace Invocation

/-- The arguments of a call as the entries of a mapping. -/
def entries (i : Invocation) : List (Value × Value) :=
  [(.text "dialect", .text (if i.indented then Dialect.indented else .block).name),
    (.text "include_paths", .list (i.includePaths.map .text)),
    (.text "output_style", .text i.outputStyle.name),
    (.text "precision", precisionValue i.precision),
    (.text "source_comments", .truth i.sourceComments)]

/-- The options that a call carries; those that it does not carry are the default ones. -/
def options (i : Invocation) : Options where
  dialect := if i.indented then .indented else .block
  includePaths := i.includePaths
  outputStyle := i.outputStyle
  precision := i.precision
  sourceComments := i.sourceComments

variable (i : Invocation)

theorem unknownKeys_entries : unknownKeys i.entries = [] := by
  rw [unknownKeys_eq_nil_iff]
  simp [entries, knownKeys]

theorem says_dialect : Says i.entries "dialect" .block NamesDialect i.options.dialect := by
  have hname (d : Dialect) : NamesDialect (.text d.name) d := by
    cases d <;> exact .inr (by decide +kernel)
  exact hname _

theorem says_includePaths : Says i.entries "include_paths" [] ListsPaths i.includePaths := by
  have hpaths : (i.includePaths.map Value.text).map pathText? = i.includePaths.map some := by
    rw [List.map_map]
    rfl
  exact .inr ⟨_, .inl rfl, hpaths⟩

theorem says_outputStyle : Says i.entries "output_style" .expanded NamesStyle i.outputStyle :=
  (rfl : NamesStyle (.text i.outputStyle.name) i.outputStyle)

theorem says_sourceComments : Says i.entries "source_comments" false GivesTruth i.sourceComments :=
  (rfl : GivesTruth (.truth i.sourceComments) i.sourceComments)

theorem says_precision_iff : Says i.entries "precision" none GivesPrecision i.precision ↔
    ∀ n, i.precision = some n → 0 ≤ n := by
  change GivesPrecision (precisionValue i.precision) i.precision ↔ _
  cases i.precision with
  | none => simp [precisionValue, GivesPrecision]
  | some n => simp [precisionValue, GivesPrecision]

theorem stated_entries (h : ∀ n, i.precision = some n → 0 ≤ n) : Stated i.entries i.options where
  known := unknownKeys_eq_nil_iff.1 i.unknownKeys_entries
  dialect := i.says_dialect
  preamble := rfl
  includePaths := i.says_includePaths
  contextFile := rfl
  outputStyle := i.says_outputStyle
  precision := i.says_precision_iff.2 h
  sourceComments := i.says_sourceComments
  opening := rfl
  closing := rfl

theorem readEntries_entries_of_neg {n : Int} (hn : i.precision = some n) (hneg : n < 0) :
    readEntries i.entries = .error .precision := by
  have hkeys : checkKeys i.entries = .ok () := checkKeys_eq_ok_iff.2 i.unknownKeys_entries
  have hdialect := (readKey_eq_ok_iff readDialect_eq_ok_iff).2 i.says_dialect
  have hpaths := (readKey_eq_ok_iff readIncludePaths_eq_ok_iff).2 i.says_includePaths
  have hstyle := (readKey_eq_ok_iff readOutputStyle_eq_ok_iff).2 i.says_outputStyle
  have hprecision : readKey i.entries "precision" none readPrecision = .error .precision := by
    change readPrecision (precisionValue i.precision) = .error .precision
    rw [hn]
    exact if_pos hneg
  simp only [readEntries, hkeys, hdialect, hpaths, hstyle, hprecision]
  rfl

/-- A mapping of the arguments of a call is read as the options of the call, unless its precision is
below zero. -/
theorem ofValue_entries : ofValue (.mapping i.entries) =
    if i.precision.any (· < 0) then .error .precision else .ok i.options := by
  rw [ofValue_mapping_eq]
  split
  · next h =>
    obtain ⟨n, hn, hneg⟩ := (Option.any_eq_true _ _).1 h
    exact i.readEntries_entries_of_neg hn (of_decide_eq_true hneg)
  · next h =>
    refine readEntries_eq_ok_iff.2 (i.stated_entries fun n hn => ?_)
    simpa [hn] using h

end Invocation

variable {external : External} {source : List Char} {given : Value} {o : Options} {i : Invocation}
  {n : Int}

theorem precision_of_ofValue {entries : List (Value × Value)}
    (ho : ofValue (.mapping entries) = .ok o) (hn : o.precision = some n) : 0 ≤ n := by
  rw [ofValue_mapping_eq] at ho
  exact (readEntries_eq_ok_iff.1 ho).precision_nonneg hn

theorem precision_of_optionsOf (ho : optionsOf given = .ok o) (hn : o.precision = some n) :
    0 ≤ n := by
  unfold optionsOf at ho
  split at ho
  · obtain rfl := Except.ok.inj (mapError_eq_ok_iff.1 ho)
    simp at hn
  · simp only [bind_eq_ok_iff, mapError_eq_ok_iff] at ho
    obtain ⟨entries, -, ho⟩ := ho
    exact precision_of_ofValue ho hn

theorem invocation_of_mem (hi : i ∈ (compile external.compiler source o).invocations) :
    ∃ staged, stage source o = .ok staged ∧ i = (requestFor staged o).invocation := by
  cases hstaged : stage source o with
  | error e => simp [invocations_compile_of_fault hstaged] at hi
  | ok staged =>
    rw [invocations_compile_of_staged external hstaged, List.mem_singleton] at hi
    exact ⟨staged, rfl, hi⟩

theorem precision_of_compileWith (hi : i ∈ (compileWith external.compiler source given).invocations)
    (hn : i.precision = some n) : 0 ≤ n := by
  cases ho : optionsOf given with
  | error e =>
    have hrun : compileWith external.compiler source given = ⟨[], .error e⟩ := by
      unfold compileWith
      rw [ho]
      rfl
    rw [hrun] at hi
    simp [Run.invocations] at hi
  | ok o =>
    have hrun : compileWith external.compiler source given =
        compile external.compiler source o := by
      unfold compileWith
      rw [ho]
      rfl
    rw [hrun] at hi
    obtain ⟨staged, -, rfl⟩ := invocation_of_mem hi
    exact precision_of_optionsOf ho hn

end Compile

namespace Command

variable {read : Reader} {h : Host} {s : Settings} {o : Options} {i : Invocation} {n : Int}

theorem precision_of_ofFile {file : Files.Path} (ho : ofFile read h file = .ok o)
    (hn : o.precision = some n) : 0 ≤ n := by
  obtain ⟨entries, base, given, hgiven, -, rfl⟩ := exists_of_ofFile ho
  exact precision_of_ofValue hgiven hn

theorem Loaded.precision_nonneg (ho : Loaded read h s o) (hn : o.precision = some n) : 0 ≤ n := by
  cases ho with
  | default => simp at hn
  | file _ ho => exact precision_of_ofFile ho hn

theorem precision_options (ho : s.options read h = .ok o) :
    o.precision.any (· < 0) = s.precision.any (· < 0) := by
  -- The flags replace what was loaded, and nothing is checked again.
  obtain ⟨base, preamble, context, hbase, -, -, rfl⟩ := options_eq_ok_iff.1 ho
  unfold Settings.merge
  cases s.precision with
  | some n => rfl
  | none =>
    cases hn : base.precision with
    | none => rfl
    | some n => simpa using hbase.precision_nonneg hn

/-- What the compiler is called with, as a mapping, is read as the options of the call. Only a flag
can ask for a precision below zero, which no mapping can. -/
theorem invocations_checked (read : Reader) (external : External) (h : Host) :
    (∀ arguments s i, Settings.ofArguments (arguments.map String.toList) = .ok s →
      i ∈ (run read external h arguments).invocations →
        ofValue (.mapping i.entries) =
          if s.precision.any (· < 0) then .error .precision else .ok i.options) ∧
    ∀ source given i, i ∈ (compileWith external.compiler source given).invocations →
      ofValue (.mapping i.entries) = .ok i.options := by
  constructor
  · intro arguments s i hs hi
    rw [run_eq hs, invocations_ofRun] at hi
    obtain ⟨o, source, staged, ho, -, -, rfl⟩ := calls_of_mem_invocations hi
    rw [Invocation.ofValue_entries, ← precision_options ho]
    rfl
  · intro source given i hi
    rw [Invocation.ofValue_entries, if_neg]
    rw [Option.any_eq_true]
    rintro ⟨n, hn, hneg⟩
    have hchecked := precision_of_compileWith hi hn
    simp at hneg
    omega

theorem invocations_checked_plainCall :
    plainCall ∈ (runSmall "" "a\x7b\x7d" ["--precision", "5"]).invocations ∧
      ofValue (.mapping plainCall.entries) = .ok plainCall.options ∧
      plainCall ∈ (compileWith carryOver.compiler "a\x7b\x7d".toList
        (.mapping [(.text "precision", .integer 5)])).invocations ∧
      ofValue (.mapping plainCall.entries) = .ok plainCall.options := by
  have hs : Settings.ofArguments (["--precision", "5"].map String.toList) =
      .ok { precision := some 5 } := by decide +kernel
  have hcalled : plainCall ∈ (runSmall "" "a\x7b\x7d" ["--precision", "5"]).invocations := by
    decide +kernel
  have hasked : plainCall ∈ (compileWith carryOver.compiler "a\x7b\x7d".toList
      (.mapping [(.text "precision", .integer 5)])).invocations := by decide +kernel
  obtain ⟨hrun, hcompile⟩ := invocations_checked Yaml.reader carryOver
    (smallHost "" "a\x7b\x7d")
  exact ⟨hcalled, hrun _ _ _ hs hcalled, hasked, hcompile _ _ _ hasked⟩

/-- The external compiler is called with a precision that no mapping can state. -/
theorem invocations_checked_negativePrecision :
    (runSmall "" "a\x7b\x7d" ["--precision", "-1"]).invocations =
        [{ plainCall with precision := some (-1) }] ∧
      ofValue (.mapping [(.text "precision", .integer (-1))]) = .error .precision ∧
      ofValue (.mapping { plainCall with precision := some (-1) }.entries) = .error .precision := by
  refine ⟨by decide +kernel, rfl, ?_⟩
  rw [Invocation.ofValue_entries]
  rfl

end Command

end Stencil
