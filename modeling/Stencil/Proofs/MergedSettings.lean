import Stencil.Proofs.LoadedOptions
import Stencil.Proofs.OptionFiles

/-!
# Settings over options

What the external compiler is called with is put together from the settings of the command line and
the options of the options file. A flag that is given counts more, also if what it gives is zero or
empty, except that switches can only be turned on and that directories are added. The directory of
the context file comes first among them, where a flag counts more than the options file and that
counts more than the source.
-/

namespace Stencil.Command

open Stencil.Text Stencil.Files Stencil.Options Stencil.Source Stencil.Shield Stencil.Compile

variable {read : Reader} {external : External} {h : Host} {s : Settings} {o : Options} {i : Invocation}

/-- The preamble of a run: what the flag says, be it nothing, or else that of the options. Behind an
at sign the flag names a file. -/
inductive PreambleOf (h : Host) (s : Settings) (o : Options) : String → Prop
  | kept (hflag : s.preamble = none) : PreambleOf h s o o.preamble
  | text {text : List Char} (hflag : s.preamble = some text) (hat : text.head? ≠ some '@') :
      PreambleOf h s o (String.ofList text)
  | file {name text : List Char} (hflag : s.preamble = some ('@' :: name))
      (htext : h.text (Path.ofText name) (.noFile .preamble (Path.ofText name).string) =
        .ok text) :
      PreambleOf h s o (String.ofList text)

/-- The context file of a run: that of the flag unless it is empty, or that of the options, or the
source where it is a file. -/
inductive ContextOf (h : Host) (s : Settings) (o : Options) : Option String → Prop
  | flag {c : Char} {name : List Char} (hflag : s.contextFile = some (c :: name)) :
      ContextOf h s o (some (String.ofList (c :: name)))
  | kept {file : String} (hflag : s.contextFile.getD [] = []) (hfile : o.contextFile = some file) :
      ContextOf h s o (some file)
  | source {name : List Char} {place : AbsolutePath} (hflag : s.contextFile.getD [] = [])
      (hfile : o.contextFile = none) (hsource : s.source = some name) (hname : name ≠ ['-'])
      (hplace : h.resolve (Path.ofText name) = .ok place) :
      ContextOf h s o (some place.val.string)
  | none (hflag : s.contextFile.getD [] = []) (hfile : o.contextFile = none)
      (hsource : s.source.getD ['-'] = ['-']) : ContextOf h s o none

/-- What becomes of the source on its way to a call: for the indented dialect it loses its common
indentation, it is put behind the preamble if that is not empty, its use rules become imports, and
its tokens are shielded. -/
def SourceOf (h : Host) (s : Settings) (markers : Token.Markers) (indented : Bool)
    (preamble : String) (text : List Char) : Prop :=
  ∃ source unindented rewritten, s.sourceText h = .ok source ∧
    (if indented then stripIndent source = .ok unindented else unindented = source) ∧
    rewriteUse (if preamble.isEmpty then unindented else preamble.toList ++ '\n' :: unindented) =
      .ok rewritten ∧
    shield markers (if indented then .indented else .block) rewritten = .ok text

/-- What a call has of the settings and of the options under them. -/
structure Merged (h : Host) (s : Settings) (o : Options) (i : Invocation) : Prop where
  indented : i.indented = true ↔ s.indented = true ∨ o.dialect = .indented
  outputStyle : i.outputStyle = s.outputStyle.getD o.outputStyle
  precision : ∀ n, i.precision = some n ↔
    s.precision = some n ∨ s.precision = none ∧ o.precision = some n
  sourceComments : i.sourceComments = true ↔ s.sourceComments = true ∨ o.sourceComments = true
  source : ∃ preamble, PreambleOf h s o preamble ∧
    SourceOf h s o.markers i.indented preamble i.source
  includePaths : ∃ context, ContextOf h s o context ∧ i.includePaths =
    ((context.map fun file => (Path.ofString file).parent.string).toList ++ o.includePaths ++
      s.includePaths.map String.ofList).eraseDups

/-! ### What is taken from where -/

theorem preambleOf_of_preambleText {preamble : Option String}
    (hpreamble : s.preambleText h = .ok preamble) :
    PreambleOf h s o (preamble.getD o.preamble) := by
  unfold Settings.preambleText Settings.preambleFile? at hpreamble
  cases hflag : s.preamble with
  | none =>
    obtain rfl : none = preamble := by simpa [hflag] using hpreamble
    exact .kept hflag
  | some text =>
    cases hat : after? ['@'] text with
    | none =>
      obtain rfl : some (String.ofList text) = preamble := by
        simpa [hflag, hat] using hpreamble
      refine .text hflag fun hhead => ?_
      obtain ⟨rest, rfl⟩ := List.head?_eq_some_iff.1 hhead
      simp [after?] at hat
    | some name =>
      obtain rfl := after?_eq_some_iff.1 hat
      simp only [hflag, Option.bind_some, hat, Option.map_some, bind_eq_ok_iff, pure_eq_ok_iff]
        at hpreamble
      obtain ⟨text, htext, rfl⟩ := hpreamble
      exact .file hflag htext

theorem contextOf_sourceContext {context : Option String}
    (hcontext : s.sourceContext h = .ok context) (hflag : s.contextFile.getD [] = [])
    (hfile : o.contextFile = none) : ContextOf h s o context := by
  unfold Settings.sourceContext Settings.sourceFile? at hcontext
  cases hsource : s.source with
  | none =>
    obtain rfl : none = context := by simpa [hsource] using hcontext
    exact .none hflag hfile (by simp [hsource])
  | some name =>
    by_cases hname : name = Settings.standardInput
    · subst hname
      simp only [hsource] at hcontext
      obtain rfl : none = context := Except.ok.inj hcontext
      exact .none hflag hfile (by simp [hsource, Settings.standardInput])
    · have hkept : (some name).filter (· != Settings.standardInput) = some name := by
        simpa using hname
      simp only [hsource, hkept, Option.map_some, bind_eq_ok_iff, mapError_eq_ok_iff,
        pure_eq_ok_iff] at hcontext
      obtain ⟨place, hplace, rfl⟩ := hcontext
      exact .source hflag hfile hsource hname hplace

theorem contextOf_contextPath {context : Option String}
    (hcontext : s.contextPath h o = .ok context) : ContextOf h s o context := by
  unfold Settings.contextPath at hcontext
  cases hflag : Settings.given s.contextFile with
  | some text =>
    obtain ⟨c, name, rfl, hname⟩ := given_eq_some_iff.1 hflag
    obtain rfl : some (String.ofList (c :: name)) = context := by simpa [hflag] using hcontext
    exact .flag hname
  | none =>
    have hempty := given_eq_none_iff.1 hflag
    cases hfile : o.contextFile with
    | some file =>
      obtain rfl : some file = context := by simpa [hflag, hfile] using hcontext
      exact .kept hempty hfile
    | none =>
      simp only [hflag, hfile] at hcontext
      exact contextOf_sourceContext hcontext hempty hfile

/-! ### The context file is never empty -/

theorem contextFile_ne_empty_of_ofFile {path : Path} {file : String}
    (ho : ofFile read h path = .ok o) (hfile : o.contextFile = some file) :
    file.isEmpty = false := by
  obtain ⟨entries, base, given, -, hbase, rfl⟩ := exists_of_ofFile ho
  obtain ⟨given, -, rfl⟩ := Option.map_eq_some_iff.1 hfile
  exact seen_ne_empty (isAbsolute_of_directory hbase) given

theorem Loaded.contextFile_ne_empty {file : String} (ho : Loaded read h s o)
    (hfile : o.contextFile = some file) : file.isEmpty = false := by
  cases ho with
  | default => simp at hfile
  | file _ ho => exact contextFile_ne_empty_of_ofFile ho hfile

theorem ContextOf.ne_empty {file : String} (hcontext : ContextOf h s o (some file))
    (ho : Loaded read h s o) : file.isEmpty = false := by
  cases hcontext with
  | flag _ => simp [Bool.eq_false_iff]
  | kept _ hfile => exact ho.contextFile_ne_empty hfile
  | @source _ place _ _ _ _ _ => exact Path.string_ne_empty place.property

/-! ### Calls -/

theorem sourceOf_of_stage {source : List Char} {staged : Staged}
    (hsource : s.sourceText h = .ok source) (hstaged : stage source o = .ok staged) :
    SourceOf h s o.markers (o.dialect == .indented) o.preamble staged.text := by
  obtain ⟨text, rewritten, shielded, htext, -, huse, hshield, rfl⟩ := stage_eq_ok_iff.1 hstaged
  obtain ⟨plain, hplain, rfl⟩ := assembled_eq_ok_iff.1 htext
  unfold unindented at hplain
  cases hdialect : o.dialect with
  | block =>
    rw [hdialect] at hplain hshield
    exact ⟨source, plain, rewritten, hsource, (Except.ok.inj hplain).symm, huse, hshield⟩
  | indented =>
    rw [hdialect] at hplain hshield
    exact ⟨source, plain, rewritten, hsource, mapError_eq_ok_iff.1 hplain, huse, hshield⟩

section Merge

variable (s o) (preamble context : Option String)

theorem dialect_merge : ((s.merge o preamble context).dialect == .indented) = true ↔
    s.indented = true ∨ o.dialect = .indented := by
  unfold Settings.merge
  cases s.indented <;> simp

theorem precision_merge (n : Int) : (s.merge o preamble context).precision = some n ↔
    s.precision = some n ∨ s.precision = none ∧ o.precision = some n := by
  unfold Settings.merge
  cases s.precision <;> simp

variable {s o} {context}

theorem contextDirectory_merge (ho : Loaded read h s o)
    (hcontext : s.contextPath h o = .ok context) :
    contextDirectory (s.merge o preamble context) =
      (context.map fun file => (Path.ofString file).parent.string).toList := by
  have hfile := contextOf_contextPath hcontext
  unfold Settings.merge contextDirectory
  cases context with
  | none => rfl
  | some file => simp [hfile.ne_empty ho]

end Merge

theorem merged_of_calls (hcall : Calls read h s i) : ∃ o, Loaded read h s o ∧ Merged h s o i := by
  obtain ⟨all, source, staged, hall, hsource, hstaged, rfl⟩ := hcall
  obtain ⟨o, preamble, context, ho, hpreamble, hcontext, rfl⟩ := options_eq_ok_iff.1 hall
  have hread := sourceOf_of_stage hsource hstaged
  obtain ⟨_, _, _, -, -, -, -, rfl⟩ := stage_eq_ok_iff.1 hstaged
  refine ⟨o, ho, {
    indented := dialect_merge s o preamble context
    outputStyle := rfl
    precision := precision_merge s o preamble context
    sourceComments := Bool.or_eq_true_iff
    source := ⟨_, preambleOf_of_preambleText hpreamble, hread⟩
    includePaths := ⟨_, contextOf_contextPath hcontext, ?_⟩ }⟩
  rw [← contextDirectory_merge preamble ho hcontext, List.append_assoc]
  rfl

/-- Every call of a run has what the command line says, and what the options file says where the
command line is silent. -/
theorem merged_invocations {arguments : List String}
    (hs : Settings.ofArguments (arguments.map String.toList) = .ok s)
    (hi : i ∈ (run read external h arguments).invocations) :
    ∃ o, Loaded read h s o ∧ Merged h s o i := by
  rw [run_eq hs, invocations_ofRun] at hi
  exact merged_of_calls (calls_of_mem_invocations hi)

def mergedFile : String :=
  "'preamble': 'b\x7b\x7d'\n'include_paths': ['lib']\n'context_file': 'c/d'"

def mergedArguments : List String :=
  ["--config", "o.yaml", "--preamble", "", "--precision", "0", "-I", "/home/css/lib", "-I", "lib"]

def mergedSettings : Settings where
  config := some "o.yaml".toList
  preamble := some []
  includePaths := ["/home/css/lib".toList, "lib".toList]
  precision := some 0

def mergedCall : Invocation where
  source := []
  indented := false
  includePaths := ["/home/css/c", "/home/css/lib", "lib"]
  outputStyle := .expanded
  sourceComments := false
  precision := some 0

theorem merged_invocations_mergedCall :
    Settings.ofArguments (mergedArguments.map String.toList) = .ok mergedSettings ∧
      mergedCall ∈ (run Yaml.reader carryOver (homeHost mergedFile) mergedArguments).invocations ∧
      ∃ o, Loaded Yaml.reader (homeHost mergedFile) mergedSettings o ∧
        Merged (homeHost mergedFile) mergedSettings o mergedCall := by
  have hs : Settings.ofArguments (mergedArguments.map String.toList) = .ok mergedSettings := by
    decide +kernel
  have hcalled : mergedCall ∈
      (run Yaml.reader carryOver (homeHost mergedFile) mergedArguments).invocations := by
    decide +kernel
  exact ⟨hs, hcalled, merged_invocations hs hcalled⟩

end Stencil.Command
